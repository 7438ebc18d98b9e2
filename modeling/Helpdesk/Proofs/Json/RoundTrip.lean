import Helpdesk.Proofs.Entries
import Helpdesk.Proofs.Json.Scalar
import Helpdesk.Proofs.Validation
import Mathlib.Data.List.Forall2

/-!
# Helpdesk.Proofs.Json.RoundTrip — the JSON text of a value reads back as that value.

Three things are lost on the way through text and are excluded from the start: integers with more
digits than are read, floats whose decimal does not read back, and entries of one name that stand in
an object twice. For every other value the reader, set on the text of the value and whatever follows
it, finds the value and stops where its text ends. The proof follows the value; the budget of the
reader is the length of the text.
-/
namespace Helpdesk.Json

/-! ## Strings -/

theorem hexValue?_digitChar {d : Nat} (h : d < 16) : hexValue? (Nat.digitChar d) = some d := by
  have hall : ∀ d < 16, hexValue? (Nat.digitChar d) = some d := by decide
  exact hall d h

/-- Four hexadecimal digits spell a code unit. -/
theorem unit?_hexDigits {n : Nat} (h : n < 65536) :
    ∃ a b c d, Text.hexDigits 4 n = [a, b, c, d] ∧ unit? a b c d = some n := by
  refine ⟨_, _, _, _, rfl, ?_⟩
  rw [unit?, hexValue?_digitChar (Nat.mod_lt _ (by decide)),
    hexValue?_digitChar (Nat.mod_lt _ (by decide)), hexValue?_digitChar (Nat.mod_lt _ (by decide)),
    hexValue?_digitChar (Nat.mod_lt _ (by decide))]
  have hsum : 4096 * (n / 16 / 16 / 16 % 16) + 256 * (n / 16 / 16 % 16) + 16 * (n / 16 % 16) +
      n % 16 = n := by omega
  exact congrArg some hsum

theorem readString_plain {opened : Nat} {c : Char} {tail : List Char} (hquote : c ≠ '"')
    (hslash : c ≠ '\\') (hcontrol : 32 ≤ c.toNat) :
    readString opened (c :: tail) = (readString opened tail).map fun (cs, r) => (c :: cs, r) := by
  have hnot : ¬ c.toNat < 32 := by omega
  rw [readString.eq_def]
  split
  case h_7 heq =>
    obtain ⟨rfl, rfl⟩ := List.cons.inj heq
    rw [if_neg hslash, if_neg hnot]
  all_goals simp_all

/-- An escape at the front of a string that is read is well formed. -/
theorem unit?_ne_none_of_readString {opened : Nat} {a b c d : Char} {tail : List Char}
    {p : List Char × List Char} (h : readString opened ('\\' :: 'u' :: a :: b :: c :: d :: tail) = .ok p) :
    unit? a b c d ≠ none := by
  intro hnone
  by_cases hescape : ∃ e f g h rest, tail = '\\' :: 'u' :: e :: f :: g :: h :: rest
  · obtain ⟨e, f, g, h', rest, rfl⟩ := hescape
    simp [readString.eq_3, hnone] at h
  · have hno : ∀ e f g h rest, tail = '\\' :: 'u' :: e :: f :: g :: h :: rest → False :=
      fun e f g h rest heq => hescape ⟨e, f, g, h, rest, heq⟩
    simp [readString.eq_4 _ _ _ _ _ _ hno, hnone] at h

/-- An escaped unit below the halves of pairs stands for one character, whatever follows it. -/
theorem readString_unit {opened u : Nat} {a b c d : Char} {tail cs r : List Char}
    (hu : unit? a b c d = some u) (hhalf : u < 0xd800) (htail : readString opened tail = .ok (cs, r)) :
    readString opened ('\\' :: 'u' :: a :: b :: c :: d :: tail) = .ok (unitChar u :: cs, r) := by
  have hne : tail ≠ [] := by
    rintro rfl
    simp [readString] at htail
  have hlow : ¬ 0xd800 ≤ u := by omega
  by_cases hescape : ∃ e f g h rest, tail = '\\' :: 'u' :: e :: f :: g :: h :: rest
  · -- The reader looks at both escapes together, finds no pair and reads the second on its own.
    obtain ⟨e, f, g, h, rest, rfl⟩ := hescape
    obtain ⟨low, hsecond⟩ := Option.ne_none_iff_exists'.mp (unit?_ne_none_of_readString htail)
    simp only [readString.eq_3, hu, hsecond, hlow, false_and, ↓reduceIte, htail, Except.map]
  · have hno : ∀ e f g h rest, tail = '\\' :: 'u' :: e :: f :: g :: h :: rest → False :=
      fun e f g h rest heq => hescape ⟨e, f, g, h, rest, heq⟩
    rw [readString.eq_4 _ _ _ _ _ _ hno]
    simp only [hu, List.isEmpty_iff, hne, ↓reduceIte, htail, Except.map]

/-- A character is read back from its form in a string. -/
theorem readString_writeChar {opened : Nat} {c : Char} {tail cs r : List Char}
    (h : readString opened tail = .ok (cs, r)) :
    readString opened (writeChar c ++ tail) = .ok (c :: cs, r) := by
  unfold writeChar
  split_ifs with hquote hslash hfeed hreturn htab hback hform hcontrol
  · subst hquote
    simp [readString, escape?, h, Except.map]
  · subst hslash
    simp [readString, escape?, h, Except.map]
  · subst hfeed
    simp [readString, escape?, h, Except.map]
  · subst hreturn
    simp [readString, escape?, h, Except.map]
  · subst htab
    simp [readString, escape?, h, Except.map]
  · have hc : Char.ofNat 8 = c := by rw [← hback, Char.ofNat_toNat]
    simp [readString, escape?, h, Except.map]
    exact hc
  · have hc : Char.ofNat 12 = c := by rw [← hform, Char.ofNat_toNat]
    simp [readString, escape?, h, Except.map]
    exact hc
  · obtain ⟨d, e, f, g, hdigits, hunit⟩ := unit?_hexDigits (n := c.toNat) (by omega)
    have hchar : unitChar c.toNat = c := by
      rw [unitChar, if_neg (by omega), Char.ofNat_toNat]
    rw [hdigits]
    exact (readString_unit hunit (by omega) h).trans (by rw [hchar])
  · rw [List.singleton_append, readString_plain hquote hslash (by omega), h]
    rfl

/-- **Strings read back.** -/
theorem readString_writeText (opened : Nat) (cs rest : List Char) :
    readString opened (cs.flatMap writeChar ++ '"' :: rest) = .ok (cs, rest) := by
  induction cs with
  | nil => simp [readString]
  | cons c cs ih =>
    rw [List.flatMap_cons, List.append_assoc]
    exact readString_writeChar ih

/-! ## What values start with -/

/-- A float is what a word or a number is read as. -/
theorem readScalar_of_readValue {fuel : Nat} {cs r : List Char} {x : Float}
    (h : readValue (fuel + 1) cs = .ok (.float x, r)) : readScalar cs = .ok (.float x, r) := by
  unfold readValue at h
  split at h
  · obtain ⟨p, -, hp⟩ := map_eq_ok_iff.mp h
    cases hp
  · split at h
    · cases h
    · obtain ⟨⟨v, r'⟩, -, hitems⟩ := bind_eq_ok_iff.mp h
      obtain ⟨p, -, hp⟩ := bind_eq_ok_iff.mp hitems
      cases hp
  · split at h
    · cases h
    · obtain ⟨⟨entry, r'⟩, -, hentries⟩ := bind_eq_ok_iff.mp h
      obtain ⟨p, -, hp⟩ := bind_eq_ok_iff.mp hentries
      cases hp
  · exact h

/-- The characters that other values than words and numbers start with. -/
def Opens (c : Char) : Prop :=
  c = '"' ∨ c = '[' ∨ c = '{'

theorem readValue_eq_readScalar (fuel : Nat) {c : Char} (cs : List Char) (h : ¬ Opens c) :
    readValue (fuel + 1) (c :: cs) = readScalar (c :: cs) := by
  unfold readValue
  split <;> simp_all [Opens]

theorem not_opens_of_readScalar {c : Char} {cs : List Char} {p : Value × List Char}
    (h : readScalar (c :: cs) = .ok p) : ¬ Opens c := by
  rintro (rfl | rfl | rfl) <;> simp [readScalar, readWord?, readNumber, wholeDigits] at h

/-- Where a value starts stands neither a blank nor the end of a list. -/
theorem front_of_readValue {fuel : Nat} {cs : List Char} {p : Value × List Char}
    (h : readValue fuel cs = .ok p) : ∃ c rest, cs = c :: rest ∧ isSpace c = false ∧ c ≠ ']' := by
  rcases fuel with _ | fuel
  · simp [readValue] at h
  rcases cs with _ | ⟨c, rest⟩
  · simp [readValue, readScalar, readWord?, readNumber, wholeDigits] at h
  refine ⟨c, rest, rfl, ?_, ?_⟩
  · cases hspace : isSpace c with
    | false => rfl
    | true =>
      rcases eq_of_isSpace hspace with rfl | rfl | rfl | rfl <;>
        simp [readValue, readScalar, readWord?, readNumber, wholeDigits] at h
  · rintro rfl
    simp [readValue, readScalar, readWord?, readNumber, wholeDigits] at h

theorem skip_of_readValue {fuel : Nat} {cs : List Char} {p : Value × List Char}
    (h : readValue fuel cs = .ok p) : skip cs = cs := by
  obtain ⟨c, rest, rfl, hspace, -⟩ := front_of_readValue h
  exact List.dropWhile_cons_of_neg (by simp [hspace])

/-! ## Floats and integers -/

theorem skip_eq_self {cs : List Char} (h : ∀ c ∈ cs, isSpace c = false) : skip cs = cs := by
  rcases cs with _ | ⟨c, cs⟩
  · rfl
  · exact List.dropWhile_cons_of_neg (by simp [h c List.mem_cons_self])

/-- **A float whose text reads back does so in front of other text.** -/
theorem readValue_write_float {x : Float} (h : read (write (.float x)) = .ok (.float x))
    {rest : List Char} (hrest : EndsNumber rest) (fuel : Nat) :
    readValue (fuel + 1) ((floats.write x).toList ++ rest) = .ok (.float x, rest) := by
  have hchars : (write (.float x)).toList = (floats.write x).toList := by
    rw [write, String.toList_ofList, writeChars]
  have hsolid : ∀ c ∈ (floats.write x).toList, isSpace c = false := isSpace_of_mem_write
  unfold read at h
  simp only [hchars, skip_eq_self hsolid] at h
  obtain ⟨⟨v, r⟩, hvalue, hend⟩ := bind_eq_ok_iff.mp h
  have hskip : skip r = [] ∧ v = .float x := by
    split at hend
    · next heq => exact ⟨heq, Except.ok.inj hend⟩
    · cases hend
  obtain ⟨hnone, rfl⟩ := hskip
  have hscalar := readScalar_of_readValue hvalue
  have hr : r = [] := by
    rw [← hnone, skip_eq_self fun c hc => hsolid c ((readScalar_suffix hscalar).subset hc)]
  rw [hr] at hscalar
  have hread := readScalar_append hrest hscalar
  obtain ⟨c, cs, heq, -, -⟩ := front_of_readValue hvalue
  rw [heq, List.cons_append] at hread ⊢
  rw [readValue_eq_readScalar fuel _ (not_opens_of_readScalar hread), hread]

theorem readValue_decimal {rest : List Char} (hrest : EndsNumber rest) (fuel : Nat) (n : Int) :
    readValue (fuel + 1) ((decimal n).toList ++ rest) =
      if n.natAbs < 10 ^ maxIntegerDigits then .ok (.int n, rest) else .error .hugeInteger := by
  have hread := fun negative => readNumber_toDigits hrest negative n.natAbs
  rcases hdigits : Nat.toDigits 10 n.natAbs with _ | ⟨d, ds⟩
  · exact absurd hdigits Nat.toDigits_ne_nil
  have hd : d.isDigit = true := isDigit_of_mem_toDigits (hdigits ▸ List.mem_cons_self)
  have hopens : ¬ Opens d := by
    rintro (rfl | rfl | rfl) <;> exact absurd hd (by decide)
  rw [hdigits, List.cons_append] at hread
  by_cases hn : n < 0
  · have hchars : (decimal n).toList = '-' :: d :: ds := by
      simp [decimal, hn, Decimal.digits, hdigits]
    have hvalue : -(n.natAbs : Int) = n := by omega
    rw [hchars, List.cons_append, List.cons_append, readValue_eq_readScalar _ _ (by simp [Opens]),
      readScalar_minus_of_isDigit hd, hread true]
    simp only [↓reduceIte, hvalue]
  · have hchars : (decimal n).toList = d :: ds := by
      simp [decimal, hn, Decimal.digits, hdigits]
    have hvalue : (n.natAbs : Int) = n := by omega
    rw [hchars, List.cons_append, readValue_eq_readScalar _ _ hopens, readScalar_of_isDigit hd,
      hread false]
    simp only [Bool.false_eq_true, ↓reduceIte, hvalue]

/-! ## All values -/

/-- A value whose JSON text can be read back: its integers have no more digits than are read, its
floats read back one by one, and no object has two entries of one name. -/
inductive Legible : Value → Prop where
  | null : Legible .null
  | bool (b : Bool) : Legible (.bool b)
  | int {n : Int} (h : n.natAbs < 10 ^ maxIntegerDigits) : Legible (.int n)
  | float {x : Float} (h : read (write (.float x)) = .ok (.float x)) : Legible (.float x)
  | text (s : String) : Legible (.text s)
  | list {items : List Value} (h : ∀ v ∈ items, Legible v) : Legible (.list items)
  | object {entries : Entries} (hnames : (Entries.names entries).Nodup)
      (h : ∀ e ∈ entries, Legible e.2) : Legible (.object entries)

/-- What is read at the front of a text that starts with a value. -/
def ReadsAs (v found : Value) : Prop :=
  ∀ fuel rest, (writeChars v).length ≤ fuel → EndsNumber rest →
    readValue (fuel + 1) (writeChars v ++ rest) = .ok (found, rest)

theorem endsNumber_writeItems (items : List Value) (rest : List Char) :
    EndsNumber (writeItems items ++ rest) := by
  rcases items with _ | ⟨v, items⟩ <;> simp [writeItems, EndsNumber]

theorem endsNumber_writeEntries (entries : Entries) (rest : List Char) :
    EndsNumber (writeEntries entries ++ rest) := by
  rcases entries with _ | ⟨⟨k, v⟩, entries⟩ <;> simp [writeEntries, EndsNumber]

theorem skip_blank (cs : List Char) : skip (' ' :: cs) = skip cs := rfl

theorem skip_writeItems (items : List Value) (rest : List Char) :
    skip (writeItems items ++ rest) = writeItems items ++ rest := by
  rcases items with _ | ⟨v, items⟩ <;> rfl

theorem skip_writeEntries (entries : Entries) (rest : List Char) :
    skip (writeEntries entries ++ rest) = writeEntries entries ++ rest := by
  rcases entries with _ | ⟨⟨k, v⟩, entries⟩ <;> rfl

theorem readItems_writeItems {items found : List Value} (h : List.Forall₂ ReadsAs items found)
    (fuel : Nat) (rest : List Char) (hfuel : (writeItems items).length ≤ fuel) :
    readItems fuel (writeItems items ++ rest) = .ok (found, rest) := by
  induction h generalizing fuel with
  | nil =>
    rcases fuel with _ | fuel
    · simp [writeItems] at hfuel
    · simp [writeItems, readItems]
  | @cons v w items found hv _ ih =>
    simp only [writeItems, List.cons_append, List.nil_append, List.length_cons,
      List.length_append] at hfuel ⊢
    obtain ⟨fuel, rfl⟩ : ∃ f, fuel = f + 2 := ⟨fuel - 2, by omega⟩
    have hvalue := hv fuel (writeItems items ++ rest) (by omega) (endsNumber_writeItems items rest)
    have hitems := ih (fuel + 1) (by omega)
    rw [readItems, List.append_assoc, skip_blank, skip_of_readValue hvalue, hvalue]
    show (readItems (fuel + 1) (skip (writeItems items ++ rest)) >>= _) = _
    rw [skip_writeItems, hitems]
    rfl

/-- An entry is read as its name and whatever its value is read as. -/
theorem readEntry_writeText (k : String) (fuel : Nat) (cs : List Char) :
    readEntry (fuel + 1) (writeText k ++ ':' :: ' ' :: cs) =
      (readValue fuel (skip cs)).map fun (v, r) => ((k, v), r) := by
  have hname := readString_writeText
    ('"' :: (k.toList.flatMap writeChar ++ '"' :: ':' :: ' ' :: cs)).length k.toList (':' :: ' ' :: cs)
  simp only [writeText, List.cons_append, List.append_assoc, List.nil_append, readEntry, hname]
  show (readValue fuel (skip (' ' :: cs)) >>= fun (v, r) => _) = _
  rw [skip_blank, String.ofList_toList]
  rcases readValue fuel (skip cs) with e | p <;> rfl

/-- What is read at the front of a text that starts with an entry. -/
def EntryReadsAs (e found : String × Value) : Prop :=
  e.1 = found.1 ∧ ReadsAs e.2 found.2

theorem readEntry_writeEntry {k : String} {v : Value} {found : String × Value}
    (h : EntryReadsAs (k, v) found) (fuel : Nat) {rest : List Char} (hrest : EndsNumber rest)
    (hfuel : (writeChars v).length ≤ fuel) :
    readEntry (fuel + 2) (writeText k ++ ':' :: ' ' :: (writeChars v ++ rest)) = .ok (found, rest) := by
  obtain ⟨name, w⟩ := found
  obtain ⟨rfl, hvalue⟩ := h
  have hv := hvalue fuel rest hfuel hrest
  rw [readEntry_writeText, skip_of_readValue hv, hv]
  rfl

theorem readEntries_writeEntries {entries found : Entries}
    (h : List.Forall₂ EntryReadsAs entries found) (fuel : Nat) (rest : List Char)
    (hfuel : (writeEntries entries).length ≤ fuel) :
    readEntries fuel (writeEntries entries ++ rest) = .ok (found, rest) := by
  induction h generalizing fuel with
  | nil =>
    rcases fuel with _ | fuel
    · simp [writeEntries] at hfuel
    · simp [writeEntries, readEntries]
  | @cons e f entries found he _ ih =>
    obtain ⟨k, v⟩ := e
    simp only [writeEntries, List.cons_append, List.nil_append, List.length_cons,
      List.length_append, List.append_assoc] at hfuel ⊢
    obtain ⟨fuel, rfl⟩ : ∃ f, fuel = f + 3 := ⟨fuel - 3, by omega⟩
    have hentry := readEntry_writeEntry he fuel (endsNumber_writeEntries entries rest) (by omega)
    have hentries := ih (fuel + 2) (by omega)
    rw [readEntries, skip_blank]
    show (readEntry (fuel + 2) (writeText k ++ _) >>= _) = _
    rw [hentry]
    show (readEntries (fuel + 2) (skip (writeEntries entries ++ rest)) >>= _) = _
    rw [skip_writeEntries, hentries]
    rfl

/-- A list is read item by item. -/
theorem readsAs_list {items found : List Value} (h : List.Forall₂ ReadsAs items found) :
    ReadsAs (.list items) (.list found) := by
  intro fuel rest hfuel _
  rcases h with _ | @⟨v, w, items, found, hv, hrest⟩
  · rfl
  simp only [writeChars, List.cons_append, List.append_assoc, List.length_cons,
    List.length_append] at hfuel ⊢
  obtain ⟨fuel, rfl⟩ : ∃ f, fuel = f + 1 := ⟨fuel - 1, by omega⟩
  have hvalue := hv fuel (writeItems items ++ rest) (by omega) (endsNumber_writeItems items rest)
  have hitems := readItems_writeItems hrest (fuel + 1) rest (by omega)
  obtain ⟨c, cs, hfront, -, hc⟩ := front_of_readValue hvalue
  rw [readValue, skip_of_readValue hvalue]
  split
  · -- The first item would have to start with the end of the list.
    next heq => exact absurd (List.cons.inj (hfront.symm.trans heq)).1 hc
  · show (readValue (fuel + 1) _ >>= _) = _
    rw [hvalue]
    show (readItems (fuel + 1) (skip _) >>= _) = _
    rw [skip_writeItems, hitems]
    rfl

/-- An object is read entry by entry. -/
theorem readsAs_object {entries found : Entries} (h : List.Forall₂ EntryReadsAs entries found) :
    ReadsAs (.object entries) (.object (Entries.ofList found)) := by
  intro fuel rest hfuel _
  rcases h with _ | @⟨e, f, entries, found, he, hrest⟩
  · rfl
  obtain ⟨k, v⟩ := e
  simp only [writeChars, List.cons_append, List.append_assoc, List.nil_append, List.length_cons,
    List.length_append] at hfuel ⊢
  obtain ⟨fuel, rfl⟩ : ∃ f, fuel = f + 2 := ⟨fuel - 2, by omega⟩
  have hentry := readEntry_writeEntry he fuel (endsNumber_writeEntries entries rest) (by omega)
  have hentries := readEntries_writeEntries hrest (fuel + 2) rest (by omega)
  rw [readValue]
  show (readEntry (fuel + 2) (writeText k ++ _) >>= _) = _
  rw [hentry]
  show (readEntries (fuel + 2) (skip _) >>= _) = _
  rw [skip_writeEntries, hentries]
  rfl

theorem readsAs_int {n : Int} (hn : n.natAbs < 10 ^ maxIntegerDigits) :
    ReadsAs (.int n) (.int n) := by
  intro fuel rest _ hrest
  rw [writeChars, readValue_decimal hrest, if_pos hn]

theorem readsAs_text (s : String) : ReadsAs (.text s) (.text s) := by
  intro fuel rest _ _
  simp only [writeChars, writeText, List.cons_append, List.append_assoc, List.nil_append, readValue,
    readString_writeText, Except.map, String.ofList_toList]

theorem readsAs_null : ReadsAs .null .null :=
  fun _ _ _ _ => rfl

theorem readsAs_bool (b : Bool) : ReadsAs (.bool b) (.bool b) := by
  intro fuel rest _ _
  cases b <;> rfl

/-- **The text of a legible value reads back, whatever follows it.** -/
theorem readsAs_of_legible {v : Value} (h : Legible v) : ReadsAs v v := by
  induction h with
  | null => exact readsAs_null
  | bool b => exact readsAs_bool b
  | int hn => exact readsAs_int hn
  | float hx =>
    intro fuel rest _ hrest
    rw [writeChars, readValue_write_float hx hrest]
  | text s => exact readsAs_text s
  | list _ ih => exact readsAs_list (List.forall₂_same.mpr ih)
  | object hnames _ ih =>
    have hread := readsAs_object (List.forall₂_same.mpr fun e he => ⟨rfl, ih e he⟩)
    rwa [Entries.ofList_of_nodup hnames] at hread

theorem ReadsAs.read_write {v found : Value} (h : ReadsAs v found) :
    read (write v) = .ok found := by
  have hchars : (write v).toList = writeChars v := String.toList_ofList
  have hread := h ((writeChars v).length + 1) [] (by omega) (fun c hc => by cases hc)
  rw [List.append_nil] at hread
  rw [read, hchars, skip_of_readValue hread]
  show (readValue ((writeChars v).length + 2) (writeChars v) >>= _) = _
  rw [hread]
  rfl

/-- **Reading is inverse to writing.** -/
theorem read_write {v : Value} (h : Legible v) : read (write v) = .ok v :=
  (readsAs_of_legible h).read_write

/-- The limit on digits is one on reading alone: what is written beyond it is not read back. -/
theorem read_write_hugeInteger (k : String) {n : Int} (h : 10 ^ maxIntegerDigits ≤ n.natAbs) :
    read (write (.object [(k, .int n)])) = .error .hugeInteger := by
  have hend : EndsNumber ['}'] := by
    intro c hc
    cases hc
    decide
  have hchars : (write (.object [(k, .int n)])).toList =
      '{' :: (writeText k ++ ':' :: ' ' :: ((decimal n).toList ++ ['}'])) := by
    rw [write, String.toList_ofList]
    simp [writeChars, writeEntries]
  have hvalue : ∀ fuel, readValue (fuel + 1) ((decimal n).toList ++ ['}']) = .error .hugeInteger :=
    fun fuel => by rw [readValue_decimal hend, if_neg (by omega)]
  have hskip : skip ((decimal n).toList ++ ['}']) = (decimal n).toList ++ ['}'] := by
    refine skip_eq_self fun c hc => ?_
    rcases List.mem_append.mp hc with hdigit | hbrace
    · exact isSpace_of_mem_decimal c hdigit
    · rw [List.mem_singleton.mp hbrace]
      rfl
  rw [read, hchars, List.length_cons, List.length_append, List.length_cons]
  show (readValue _ ('{' :: _) >>= _) = _
  rw [readValue]
  show ((readEntry _ (writeText k ++ _) >>= _) >>= _) = _
  rw [readEntry_writeText, hskip, hvalue]
  rfl

end Helpdesk.Json
