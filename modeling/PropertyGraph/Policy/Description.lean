import PropertyGraph.Policy.Bundle
import PropertyGraph.Text.Extending
import PropertyGraph.Text.Graphic
import PropertyGraph.Text.Ignorable

/-!
# Descriptions of policies

The one-line text that shows how a policy or a bundle is built, for logs and debugging.  Every
policy has a name; the filtering ones show their name sets in increasing order, strings being
quoted, and a shared pointer shows what it points to.  In a quoted string every character can be
told from the text: one that is not shown by itself, or that would join the character before it,
stands there by its number.
-/

namespace PropertyGraph

/-- Whether a character can be seen by itself in a text: it has a shape, it is not left out, and
it does not join the character before it unless it keeps its own width beside it. -/
def standsAlone (c : Char) : Bool :=
  isGraphic c && !isIgnorable c && (!isExtending c || isSoundMark c)

/-- A character in a quoted string of a description: the quotation mark, the backslash and four
controls have escapes of their own, and a character that does not stand alone is given by the
hexadecimal digits of its code point. -/
def describeChar (c : Char) : List Char :=
  if c = '"' then ['\\', '"']
  else if c = '\\' then ['\\', '\\']
  else if c = '\n' then ['\\', 'n']
  else if c = '\r' then ['\\', 'r']
  else if c = '\t' then ['\\', 't']
  else if c.toNat = 0 then ['\\', '0']
  else if standsAlone c then [c]
  else '\\' :: 'u' :: '\x7b' :: (Nat.toDigits 16 c.toNat ++ ['\x7d'])

/-- A quoted string in a description. -/
def describeString (s : String) : String :=
  "\"" ++ String.ofList (s.toList.flatMap describeChar) ++ "\""

/-- A name set in a description. -/
def describeNames (names : NameSet) : String :=
  "\x7b" ++ ", ".intercalate (names.toList.map describeString) ++ "\x7d"

/-- A name with fields in braces. -/
def describeFields (name : String) (fields : List (String × String)) : String :=
  name ++ " \x7b " ++ ", ".intercalate (fields.map fun (k, v) => k ++ ": " ++ v) ++ " \x7d"

/-- The name of a direction. -/
def Direction.name : Direction → String
  | .outgoing => "Outgoing"
  | .incoming => "Incoming"
  | .both => "Both"

mutual

/-- The description of a policy on nodes. -/
def NodePolicy.describe : NodePolicy → String
  | .all => "IncludeAllNodes"
  | .none => "IncludeNoNodes"
  | .labels names => describeFields "IncludeNodesWithLabels" [("labels", describeNames names)]
  | .allOf members =>
    describeFields "CompositeNodeInclusionPolicy"
      [("policies", "[" ++ ", ".intercalate (describeEachNode members) ++ "]")]
  | .shared policy => policy.describe
  | .custom name _ => name

/-- The descriptions of several policies on nodes. -/
def describeEachNode : List NodePolicy → List String
  | [] => []
  | p :: ps => p.describe :: describeEachNode ps

end

mutual

/-- The description of a policy on relationships. -/
def RelationshipPolicy.describe : RelationshipPolicy → String
  | .all => "IncludeAllRelationships"
  | .none => "IncludeNoRelationships"
  | .types names direction =>
    describeFields "IncludeRelationships"
      [("types", describeNames names), ("direction", direction.name)]
  | .allOf members =>
    describeFields "CompositeRelationshipInclusionPolicy"
      [("policies", "[" ++ ", ".intercalate (describeEachRelationship members) ++ "]")]
  | .shared policy => policy.describe
  | .custom name _ => name
  | .customFrom name _ _ => name

/-- The descriptions of several policies on relationships. -/
def describeEachRelationship : List RelationshipPolicy → List String
  | [] => []
  | p :: ps => p.describe :: describeEachRelationship ps

end

/-- The description of a policy on properties. -/
def PropertyPolicy.describe {ε : Type} : PropertyPolicy ε → String
  | .all => "IncludeAllProperties"
  | .none => "IncludeNoProperties"
  | .keys names => describeFields "IncludePropertyKeys" [("keys", describeNames names)]
  | .shared policy => policy.describe
  | .custom name _ => name

/-- The description of a bundle. -/
def PolicyBundle.describe (b : PolicyBundle) : String :=
  describeFields "InclusionPolicies"
    [("nodes", b.nodes.describe), ("node_properties", b.nodeProperties.describe),
      ("relationships", b.relationships.describe),
      ("relationship_properties", b.relationshipProperties.describe)]

end PropertyGraph
