import PropertyGraph.Error

/-!
# Why a text was not accepted

A text that should describe something fails to do so either in its form (it is not JSON, or not
JSON of the right shape) or in a way that can be named: an unknown, missing or repeated field, an
unknown variant, a rule that fits no alternative, or contents that the library refuses.  Only the
latter have a wording.
-/

namespace PropertyGraph

namespace Json

/-- Why a text was not accepted. -/
inductive Fault where
  /-- the text is not JSON, or not of the right shape -/
  | unreadable
  | unknownField (name : String) (expected : List String)
  | duplicateField (name : String)
  | missingField (name : String)
  | unknownVariant (name : String) (expected : List String)
  /-- a rule that fits none of its alternatives -/
  | noAlternative (rule : String)
  /-- well-formed contents that the library refuses -/
  | refused (cause : Error)
  deriving DecidableEq

/-- A name in backquotes. -/
def quoteName (name : String) : String := "`" ++ name ++ "`"

/-- The names that would have been right: one, one of two, or one of several. -/
def expectedNames : List String → String
  | [a] => quoteName a
  | [a, b] => quoteName a ++ " or " ++ quoteName b
  | names => "one of " ++ ", ".intercalate (names.map quoteName)

/-- The wording of a fault, if it has one. -/
def Fault.message? : Fault → Option String
  | .unreadable => none
  | .unknownField name expected =>
    some ("unknown field " ++ quoteName name ++ ", expected " ++ expectedNames expected)
  | .duplicateField name => some ("duplicate field " ++ quoteName name)
  | .missingField name => some ("missing field " ++ quoteName name)
  | .unknownVariant name expected =>
    some ("unknown variant " ++ quoteName name ++ ", expected " ++ expectedNames expected)
  | .noAlternative rule => some ("data did not match any variant of untagged enum " ++ rule)
  | .refused cause => some cause.message

end Json

end PropertyGraph
