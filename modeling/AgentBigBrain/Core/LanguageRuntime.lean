import AgentBigBrain.Js.Platform

/-!
# Topic terms

The words of a text that may name a topic: runs of letters and numbers and dotted
initialisms, in lower case, without short words and stop words, each word once.
-/
namespace AgentBigBrain.Core

open AgentBigBrain.Js

variable (platform : Platform)

/-! ## Patterns -/

/-- The characters that join the parts of one word: `['’-]`. -/
def isJoiner (c : Char) : Bool :=
  c == '\'' || c == '’' || c == '-'

/-- The matches of `/[\p{L}\p{N}]+(?:['’-][\p{L}\p{N}]+)*/gu`; `current` is the word being
read, its last character first. -/
def languageTokensFrom (current : List Char) : List Char → List (List Char)
  | [] => if current.isEmpty then [] else [current.reverse]
  | c :: cs =>
      if platform.isLetterOrNumber c then
        languageTokensFrom (c :: current) cs
      else if !current.isEmpty && isJoiner c && cs.head?.any platform.isLetterOrNumber then
        languageTokensFrom (c :: current) cs
      else if current.isEmpty then
        languageTokensFrom [] cs
      else
        current.reverse :: languageTokensFrom [] cs

/-- The length of the longest start of the text that matches `(?:[\p{L}\p{N}]\.)*`. -/
def dottedLength : List Char → ℕ
  | c :: d :: cs => if platform.isLetterOrNumber c && d == '.' then dottedLength cs + 2 else 0
  | _ => 0

/-- The length of the match of `/(?:[\p{L}\p{N}]\.){2,}(?:[\p{L}\p{N}]\.?)?/u` at the start of
the text. A last letter with its dot already belongs to the dotted part. -/
def initialismLength (cs : List Char) : ℕ :=
  let dotted := dottedLength platform cs
  if dotted < 4 then 0
  else if (cs.drop dotted).head?.any platform.isLetterOrNumber then dotted + 1
  else dotted

/-- The matches of the initialism pattern, which begins with `\b`; the first `skip` characters
belong to a match already found. -/
def initialismsFrom (before : Option Char) : ℕ → List Char → List (List Char)
  | _, [] => []
  | skip + 1, c :: cs => initialismsFrom (some c) skip cs
  | 0, c :: cs =>
      let length := if atBoundary before (c :: cs) then initialismLength platform (c :: cs) else 0
      if length = 0 then
        initialismsFrom (some c) 0 cs
      else
        (c :: cs).take length :: initialismsFrom (some c) (length - 1) cs

/-! ## Terms -/

def COMMON_EN_STOP_WORDS : List String :=
  ["a", "an", "and", "are", "for", "from", "how", "is", "it", "me", "my", "of", "on", "that",
    "the", "this", "to", "was", "we", "what", "when", "where", "who", "why", "with", "you",
    "your"]

/-- The stop words of conversation topics in the default language profile. -/
def conversationTopicStopWords : List String :=
  COMMON_EN_STOP_WORDS ++
    ["about", "agentbigbrain", "also", "back", "bigbrain", "chat", "could", "discuss", "go",
      "have", "here", "into", "just", "let", "lets", "let's", "need", "next", "now", "please",
      "show", "should", "tell", "there", "thread", "today", "tomorrow", "topic", "week", "will",
      "would", "yesterday"]

def normalizeLanguageToken (value : List Char) : String :=
  platform.toLocaleLowerCase (trim (String.ofList value))

def tokenizeLanguageTerms (stopWords : List String) (minTokenLength : ℕ) (text : String) :
    List String :=
  let found := languageTokensFrom platform [] text.toList ++
    initialismsFrom platform none 0 text.toList
  uniqueValues ((found.map (normalizeLanguageToken platform)).filter fun token =>
    !(decide (utf16Length token < minTokenLength) || stopWords.contains token))

def extractConversationTopicTerms (text : String) : List String :=
  tokenizeLanguageTerms platform conversationTopicStopWords 3 text

def countLanguageTermOverlap (left right : List String) : ℕ :=
  left.countP fun term => right.contains term

example :
    extractConversationTopicTerms (Platform.ofDates []) "Back to the U.S.A. budget-plan, budget" =
      ["budget-plan", "budget", "u.s.a."] := by
  decide

end AgentBigBrain.Core
