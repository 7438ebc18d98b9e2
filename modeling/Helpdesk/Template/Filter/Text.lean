import Helpdesk.Decimal.Fixed
import Helpdesk.Json.Reader
import Helpdesk.Template.Filter.Sequence

/-!
# Helpdesk.Template.Filter.Text — filters on text.

A filter on text works on what an item prints as.
-/
namespace Helpdesk.Template.Filter

/-! ## Search and replace -/

/-- Replaces the first `limit` occurrences of a text that is not empty. -/
def replaceChars (old new : List Char) : Nat → Nat → List Char → List Char
  | _, _, [] => []
  | limit, skip + 1, _ :: rest => replaceChars old new limit skip rest
  | 0, 0, cs => cs
  | limit + 1, 0, c :: rest =>
    match Text.stripWord old (c :: rest) with
    | some _ => new ++ replaceChars old new limit (old.length - 1) rest
    | none => c :: replaceChars old new (limit + 1) 0 rest

/-- Puts a text before the first `limit` characters, and at the end when there is room left. -/
def scatter (new : List Char) : Nat → List Char → List Char
  | 0, cs => cs
  | _ + 1, [] => new
  | limit + 1, c :: rest => new ++ c :: scatter new limit rest

/-- Replaces the first `limit` occurrences of a text; the empty text occurs around every character. -/
def replaced (limit : Nat) (old new s : String) : String :=
  String.ofList (if old.isEmpty then scatter new.toList limit s.toList
    else replaceChars old.toList new.toList limit 0 s.toList)

/-- Replaces the last occurrence of a text. -/
def replacedLast (old new s : String) : String :=
  let reversed := fun (t : String) => t.toList.reverse
  if old.isEmpty then s ++ new
  else String.ofList (replaceChars (reversed old) (reversed new) 1 0 (reversed s)).reverse

/-- The parts of a text between the occurrences of another that is not empty. -/
def splitChars (separator : List Char) : Nat → List Char → List Char → List (List Char)
  | _, part, [] => [part.reverse]
  | skip + 1, part, _ :: rest => splitChars separator skip part rest
  | 0, part, c :: rest =>
    match Text.stripWord separator (c :: rest) with
    | some _ => part.reverse :: splitChars separator (separator.length - 1) [] rest
    | none => splitChars separator 0 (c :: part) rest

/-- The parts of a text between separators; its characters when there is no separator. -/
def split (s separator : String) : List String :=
  if separator.isEmpty then s.toList.map String.singleton
  else if s.isEmpty ∨ s = separator then []
  else (splitChars separator.toList 0 [] s.toList).map String.ofList

/-- The words of a text. -/
def words (s : String) : List String :=
  ((Text.foldBlanksChars (Text.trimChars s.toList)).splitOnP (· == ' ')).filterMap fun cs =>
    if cs.isEmpty then none else some (String.ofList cs)

/-! ## Markup -/

/-- A character that is safe in markup. -/
def escapeChar (c : Char) : List Char :=
  if c = '&' then "&amp;".toList
  else if c = '<' then "&lt;".toList
  else if c = '>' then "&gt;".toList
  else if c = '"' then "&quot;".toList
  else if c = '\'' then "&#x27;".toList
  else [c]

/-- Text with the characters that mean something in markup escaped. -/
def escape (s : String) : String :=
  String.ofList (s.toList.flatMap escapeChar)

/-- The names of escaped characters. -/
def entities : List (String × Char) := [
  ("amp", '&'), ("lt", '<'), ("gt", '>'), ("quot", '"'), ("apos", '\''),
  ("nbsp", Char.ofNat 0xa0), ("copy", Char.ofNat 0xa9), ("reg", Char.ofNat 0xae)]

/-- The character that an entity stands for. -/
def entity? (name : List Char) : Option Char :=
  match name with
  | '#' :: 'x' :: ds => if ds.isEmpty then none else
    (ds.foldlM (fun n d => (Json.hexValue? d).map (16 * n + ·)) 0).map Char.ofNat
  | '#' :: ds => if ds.isEmpty || !ds.all Char.isDigit then none
    else some (Char.ofNat (Decimal.ofDigits ds))
  | name => entities.lookup (String.ofList name)

/-- Text with escaped characters read back. -/
def unescapeChars : Nat → List Char → List Char
  | _, [] => []
  | skip + 1, _ :: rest => unescapeChars skip rest
  | 0, c :: rest =>
    let name := rest.takeWhile (· != ';')
    let found := if c = '&' ∧ name.length < rest.length then entity? name else none
    match found with
    | some d => d :: unescapeChars (name.length + 1) rest
    | none => c :: unescapeChars 0 rest

/-- Text without what stands between two marks, the marks included; `close` is looked for after the
first character of `start`. -/
def withoutSpans (start close : List Char) : Nat → List Char → List Char
  | 0, cs => cs
  | _ + 1, [] => []
  | fuel + 1, c :: rest =>
    let span := (Text.stripWord start (c :: rest)).bind fun body =>
      (splitChars close 0 [] body).head?.bind fun inner =>
        if inner.length < body.length then some (body.drop (inner.length + close.length)) else none
    match span with
    | some after => withoutSpans start close fuel after
    | none => c :: withoutSpans start close fuel rest

/-- Text without markup. -/
def stripMarkup (s : String) : String :=
  let marks := [("<script", "</script>"), ("<!--", "-->"), ("<style", "</style>"), ("<", ">")]
  String.ofList (marks.foldl
    (fun cs (start, close) => withoutSpans start.toList close.toList (cs.length + 1) cs) s.toList)

/-! ## Encodings -/

/-- A byte in two hexadecimal digits in upper case. -/
def percentByte (b : UInt8) : List Char :=
  '%' :: (Nat.toDigits 16 (256 + b.toNat)).drop 1 |>.map Char.toUpper

/-- A byte of a text in an address. -/
def addressByte (b : UInt8) : List Char :=
  let c := Char.ofNat b.toNat
  if b = 32 then ['+']
  else if c.isAlphanum || c == '_' || c == '.' || c == '-' || c == '~' then [c]
  else percentByte b

/-- Text as it stands in an address. -/
def addressEncode (s : String) : String :=
  String.ofList (s.toUTF8.toList.flatMap addressByte)

/-- The bytes that an encoded text stands for. -/
def addressBytes : Nat → List UInt8 → List UInt8
  | 0, bs => bs
  | _ + 1, [] => []
  | fuel + 1, b :: rest =>
    if b = 43 then 32 :: addressBytes fuel rest
    else if b = 37 then
      match rest with
      | h :: l :: after =>
        match Json.hexValue? (Char.ofNat h.toNat), Json.hexValue? (Char.ofNat l.toNat) with
        | some h, some l => UInt8.ofNat (16 * h + l) :: addressBytes fuel after
        | _, _ => b :: addressBytes fuel rest
      | _ => b :: addressBytes fuel rest
    else b :: addressBytes fuel rest

/-- Reads text as it stands in an address. -/
def addressDecode? (s : String) : Option String :=
  let bytes := s.toUTF8.toList
  String.fromUTF8? ⟨(addressBytes bytes.length bytes).toArray⟩

/-- The digits of base 64. -/
def base64Alphabet (safe : Bool) : List Char :=
  ("ABCDEFGHIJKLMNOPQRSTUVWXYZabcdefghijklmnopqrstuvwxyz0123456789" ++
    (if safe then "-_" else "+/")).toList

/-- A digit of base 64. -/
def base64Digit (safe : Bool) (n : Nat) : Char :=
  ((base64Alphabet safe)[n % 64]?).getD '='

/-- Bytes in base 64. -/
def base64Chars (safe : Bool) : List UInt8 → List Char
  | [] => []
  | [a] =>
    let n := a.toNat * 65536
    [base64Digit safe (n / 262144), base64Digit safe (n / 4096), '=', '=']
  | [a, b] =>
    let n := a.toNat * 65536 + b.toNat * 256
    [base64Digit safe (n / 262144), base64Digit safe (n / 4096), base64Digit safe (n / 64), '=']
  | a :: b :: c :: rest =>
    let n := a.toNat * 65536 + b.toNat * 256 + c.toNat
    [base64Digit safe (n / 262144), base64Digit safe (n / 4096), base64Digit safe (n / 64),
      base64Digit safe n] ++ base64Chars safe rest

/-- Text in base 64. -/
def base64Encode (safe : Bool) (s : String) : String :=
  String.ofList (base64Chars safe s.toUTF8.toList)

/-- The bytes that digits of base 64 stand for. -/
def base64Bytes? : List Nat → Option (List UInt8)
  | [] => some []
  | [_] => none
  | [a, b] => some [UInt8.ofNat (a * 4 + b / 16)]
  | [a, b, c] => some [UInt8.ofNat (a * 4 + b / 16), UInt8.ofNat (b * 16 + c / 4)]
  | a :: b :: c :: d :: rest => do
    let more ← base64Bytes? rest
    return UInt8.ofNat (a * 4 + b / 16) :: UInt8.ofNat (b * 16 + c / 4) :: UInt8.ofNat (c * 64 + d) ::
      more

/-- Reads text in base 64. -/
def base64Decode? (safe : Bool) (s : String) : Option String := do
  let known := s.toList.filter fun c => (base64Alphabet safe).contains c || c == '='
  let digits := known.takeWhile (· != '=')
  if known.length % 4 ≠ 0 then none
  else
    let bytes ← base64Bytes? (digits.map fun c => ((base64Alphabet safe).findIdx (· == c)))
    String.fromUTF8? ⟨bytes.toArray⟩

/-! ## Cuts -/

/-- Text cut to a limit and marked with three dots where it was cut. The limit has to be a number,
and a whole one when the text is cut; a negative limit leaves that many characters away. -/
def truncateChars? (s : String) (limit : Item) : Option String :=
  match limit.number? with
  | none => none
  | some n =>
    let fits := match Number.compare? (.int s.length) n with
      | some .gt => false
      | some _ => true
      | none => false
    if fits then some s
    else match n with
      | .int m => some (String.ofList (Text.upTo s.toList m) ++ "...")
      | .float _ => none

/-- The limit of a cut when none is given. -/
def truncateLimit : Nat := 2000

/-- Text of at most `limit` characters, its end replaced by a mark when it is cut. -/
def truncate (s : String) (limit : Int) (mark : String) : String :=
  if (s.length : Int) ≤ limit then s
  else String.ofList (s.toList.take (limit - mark.length).toNat) ++ mark

/-- The first words of a text, with a mark when there are more. -/
def truncateWords (s : String) (limit : Int) (mark : String) : String :=
  let count := (max limit 1).toNat
  let all := words s
  if all.length ≤ count then Text.join " " all else Text.join " " (all.take count) ++ mark

/-- An integer argument. -/
def integer? : Item → Option Int
  | .int n => some n
  | .bool b => some (if b then 1 else 0)
  | .text s => Decimal.spelledInt? s
  | .float x => (Decimal.Binary.ofFloat? x).map Decimal.Binary.truncated
  | _ => none

/-- An integer argument that may be left out. -/
def integerOr? (otherwise : Int) : Option Item → Option Int
  | none => some otherwise
  | some .absent => some otherwise
  | some a => integer? a

/-- A text argument that may be left out. -/
def textOr (otherwise : String) : Option Item → String
  | none => otherwise
  | some .absent => otherwise
  | some a => a.plainText

/-- The items from a position on, at most so many. -/
def cut {α : Type} (items : List α) (start length : Int) : List α :=
  let stop := start + length
  if length < 0 then []
  else if start < 0 ∧ 0 ≤ stop then items.drop (Text.place items.length start)
  else Text.slice items start stop

/-- Cuts a list or a text. -/
def slice? (a : Item) (start length : Int) : Item :=
  match a with
  | .list items => .list (cut items start length)
  | .range first stop => .list (cut (Item.rangeItems first stop) start length)
  | .pair k v => .list (cut [.text k, v] start length)
  | a => .text (String.ofList (cut a.printed.toList start length))

/-! ## The filters -/

/-- A filter on text with texts as its arguments, the last of which may be left out. -/
def onTexts (name : String) (required : Nat) (parameters : List String)
    (f : String → List String → Option String) : Filter :=
  ⟨name, required, parameters, fun a arguments =>
    (f a.printed (arguments.map fun x => (x.map Item.plainText).getD "")).map .text⟩

/-- A filter that replaces one text by another. -/
def onPair (name : String) (f : String → String → String → String) : Filter :=
  onTexts name 1 ["seq", "sub"] fun s given => match given with
    | [old, new] => some (f old new s)
    | _ => none

/-- A filter that removes a text. -/
def onOne (name : String) (f : String → String → String) : Filter :=
  onTexts name 1 ["arg"] fun s given => match given with
    | [t] => some (f t s)
    | _ => none

/-- The filters on text. -/
def text : List Filter := [
  onText "upcase" Text.upper,
  onText "downcase" Text.lower,
  onText "capitalize" Text.capitalize,
  onText "strip" Text.trim,
  onText "lstrip" Text.trimLeft,
  onText "rstrip" Text.trimRight,
  onText "safe" id,
  onText "strip_newlines" fun s => replaced s.length "\n" "" (replaced s.length "\r\n" "" s),
  onText "newline_to_br" fun s =>
    let s := replaced s.length "\r\n" "\n" s
    replaced s.length "\n" "<br />\n" s,
  onText "escape" escape,
  onText "escape_once" fun s => escape (String.ofList (unescapeChars 0 s.toList)),
  onText "strip_html" stripMarkup,
  onText "url_encode" addressEncode,
  onText "base64_encode" (base64Encode false),
  onText "base64_url_safe_encode" (base64Encode true),
  onTexts "url_decode" 0 [] fun s _ => addressDecode? s,
  onTexts "base64_decode" 0 [] fun s _ => base64Decode? false s,
  onTexts "base64_url_safe_decode" 0 [] fun s _ => base64Decode? true s,
  onOne "append" fun t s => s ++ t,
  onOne "prepend" fun t s => t ++ s,
  onOne "remove" fun t s => replaced (s.length + 1) t "" s,
  onOne "remove_first" fun t s => replaced 1 t "" s,
  onOne "remove_last" fun t s => replacedLast t "" s,
  onPair "replace" fun old new s => replaced (s.length + 1) old new s,
  onPair "replace_first" fun old new s => replaced 1 old new s,
  onPair "replace_last" replacedLast,
  ⟨"split", 1, ["sep"], fun a arguments => do
    let separator ← arguments.head?.join
    return .list ((split a.printed separator.plainText).map .text)⟩,
  ⟨"slice", 1, ["start", "length"], fun a arguments =>
    match arguments with
    | [some start, length] => do
      return slice? a (← integer? start) (← integerOr? 1 length)
    | _ => none⟩,
  ⟨"truncate", 0, ["num", "end_"], fun a arguments =>
    match arguments with
    | [limit, mark] => do
      return .text (truncate a.printed (← integerOr? 50 limit) (textOr "..." mark))
    | _ => none⟩,
  ⟨"truncatewords", 0, ["num", "end_"], fun a arguments =>
    match arguments with
    | [limit, mark] => do
      return .text (truncateWords a.printed (← integerOr? 15 limit) (textOr "..." mark))
    | _ => none⟩,
  ⟨"truncate_chars", 0, ["max_length"], fun a arguments =>
    let s := match a with
      | .null => ""
      | a => a.plainText
    (truncateChars? s (arguments.head?.join.getD (.int truncateLimit))).map .text⟩,
  ⟨"default", 0, ["default_", "allow_false"], fun a arguments =>
    match arguments with
    | [other, allowed] =>
      let keeps := match a, allowed with
        | .bool false, some (.bool true) => true
        | .int _, _ => true
        | .float _, _ => true
        | .bool true, _ => true
        | .bool false, _ => false
        | .null, _ => false
        | .absent, _ => false
        | a, _ => !a.isEmpty
      some (if keeps then a else other.getD (.text ""))
    | _ => none⟩]

end Helpdesk.Template.Filter
