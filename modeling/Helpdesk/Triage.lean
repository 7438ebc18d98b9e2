import Helpdesk.Text.Blank
import Helpdesk.Text.Case
import Helpdesk.Text.Slice

/-!
# Helpdesk.Triage — messages that need no model to be understood.

A customer who asks for a human or uses strong language is recognised by what the message contains,
and so is small talk. The message is read without its outer blanks and in lower case. Phrases are
matched anywhere in the message unless they have to be the whole of it, and most of them also in the
variant letters that are capitals of the same letter.
-/
namespace Helpdesk.Triage

/-- A message as it is compared with phrases. -/
def normalized (message : String) : String :=
  Text.lower (Text.trim message)

/-- The dotless i and the long s count as the letters whose capitals they share. -/
def foldVariant (c : Char) : Char :=
  if c = 'ı' then 'i' else if c = 'ſ' then 's' else c

/-- Text with variant letters folded. -/
def folded (s : String) : String :=
  String.ofList (s.toList.map foldVariant)

/-- Whether one of some phrases occurs in a text. -/
def mentions (phrases : List String) (s : String) : Bool :=
  phrases.any fun phrase => Text.occursIn phrase.toList s.toList

/-- Explicit requests for a human agent. -/
def humanRequests : List String :=
  ["转人工", "转到人工", "人工客服", "真人客服", "请转接", "找人", "联系技术", "联系工程师", "联系人工",
    "human", "real person", "real agent", "live agent", "talk to person", "talk to a person",
    "talk to representative", "talk to a representative", "escalate", "supervisor", "manager"]

/-- Strong negative sentiment, abuse and complaints. -/
def complaints : List String :=
  ["垃圾", "滚", "废物", "狗屁", "你啥也不会", "没用", "投诉", "差评",
    "useless", "stupid", "idiot", "worst support", "complain"]

/-- The reason for handing over a customer who asked for it. -/
def requestReason : String := "用户明确请求人工"

/-- The reason for handing over a customer who complains. -/
def complaintReason : String := "用户强烈负面情绪/投诉"

/-- Why a message must go to a human at once, if it must. -/
def handoffReason? (message : String) : Option String :=
  let s := folded (normalized message)
  if mentions humanRequests s then some requestReason
  else if mentions complaints s then some complaintReason
  else none

/-- Greetings that are the whole message. -/
def bareGreetings : List String := ["hi", "hello", "hey"]

/-- Greetings and farewells. -/
def greetings : List String :=
  ["你好", "您好", "在吗", "早上好", "下午好", "晚上好", "再见", "bye", "拜拜", "辛苦了"]

/-- Acknowledgements that are the whole message. -/
def acknowledgements : List String :=
  ["ok", "okay", "roger", "收到", "好的", "明白了", "了解了", "行", "可以"]

/-- Thanks. -/
def thanks : List String :=
  ["谢谢", "感谢", "thx", "thanks", "thank you"]

/-- Whether a message is small talk that needs no search for knowledge. -/
def isSmallTalk (message : String) : Bool :=
  let s := normalized message
  !s.isEmpty &&
    (bareGreetings.contains s || mentions greetings s || acknowledgements.contains (folded s) ||
      mentions thanks (folded s) || s.toList.all (· == '嗯'))

end Helpdesk.Triage
