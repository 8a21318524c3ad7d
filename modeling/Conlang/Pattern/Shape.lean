import Conlang.Pattern.Syntax

/-! How much text a pattern takes, and how it has to be searched.

A pattern is *plain* when it can be searched in time linear in the text: it looks at no place but
the text's and its lines' ends, and nothing in it depends on what a group has matched. A group that
a back reference names is not plain, because the search may have to come back into it. -/
namespace Conlang.Pattern
open Text (CharSet)

def Assertion.plain : Assertion → Bool
  | .textStart | .textEnd | .lineStart | .lineEnd => true
  | _ => false

namespace Node

/-! ### Size -/

mutual

/-- The least number of characters that a match takes. -/
def minSize : Node → Nat
  | .lit _ | .set _ | .any _ => 1
  | .seq parts => sumSize parts
  | .alt choices => leastSize choices
  | .group _ body | .atomic body => body.minSize
  | .rep least _ _ body => body.minSize * least
  | .cond test thenBody elseBody => test.minSize + min thenBody.minSize elseBody.minSize
  | .empty | .assertion _ | .look _ _ | .backref _ | .isSet _ | .keepOut | .searchStart => 0

def sumSize : List Node → Nat
  | [] => 0
  | part :: parts => part.minSize + sumSize parts

def leastSize : List Node → Nat
  | [] => 0
  | [choice] => choice.minSize
  | choice :: choices => min choice.minSize (leastSize choices)

end

mutual

/-- All matches take the same number of characters. -/
def fixedSize : Node → Bool
  | .seq parts => allFixed parts
  | .alt [] => true
  | .alt (choice :: choices) => choice.fixedSize && fixedAt choice.minSize choices
  | .group _ body | .atomic body => body.fixedSize
  | .rep least most _ body => body.fixedSize && most == some least
  | .cond test thenBody elseBody =>
    test.fixedSize && thenBody.fixedSize && elseBody.fixedSize
      && test.minSize + thenBody.minSize == elseBody.minSize
  | .backref _ => false
  | _ => true

def allFixed : List Node → Bool
  | [] => true
  | part :: parts => part.fixedSize && allFixed parts

def fixedAt (size : Nat) : List Node → Bool
  | [] => true
  | choice :: choices => choice.fixedSize && choice.minSize == size && fixedAt size choices

end

mutual

/-- No match takes a character. -/
def takesNothing : Node → Bool
  | .lit _ | .set _ | .any _ => false
  | .seq parts | .alt parts => allTakeNothing parts
  | .group _ body | .atomic body => body.takesNothing
  | .rep _ most _ body => most == some 0 || body.takesNothing
  | .cond test thenBody elseBody =>
    test.takesNothing && thenBody.takesNothing && elseBody.takesNothing
  | .backref _ => false
  | _ => true

def allTakeNothing : List Node → Bool
  | [] => true
  | part :: parts => part.takesNothing && allTakeNothing parts

end

/-! ### Kind of search -/

mutual

/-- The pattern can be searched in linear time, if the groups that `referred` lists are referred
to. -/
def plain (referred : List Nat) : Node → Bool
  | .empty | .lit _ | .set _ | .any _ => true
  | .assertion place => place.plain
  | .seq parts | .alt parts => allPlain referred parts
  | .group index body => body.plain referred && !referred.contains index
  | .rep _ _ _ body => body.plain referred
  | .look _ _ | .atomic _ | .backref _ | .isSet _ | .cond _ _ _ | .keepOut | .searchStart => false

def allPlain (referred : List Nat) : List Node → Bool
  | [] => true
  | part :: parts => part.plain referred && allPlain referred parts

end

/-! ### Groups -/

mutual

/-- The numbers of the groups in a pattern. -/
def groupsIn : Node → List Nat
  | .group index body => index :: body.groupsIn
  | .seq parts | .alt parts => groupsInAll parts
  | .rep _ _ _ body | .atomic body | .look _ body => body.groupsIn
  | .cond test thenBody elseBody => test.groupsIn ++ thenBody.groupsIn ++ elseBody.groupsIn
  | _ => []

def groupsInAll : List Node → List Nat
  | [] => []
  | part :: parts => part.groupsIn ++ groupsInAll parts

end

end Node

end Conlang.Pattern
