import PropertyGraph.Value.Basic

/-!
# Conversions into values

The ordinary types that turn into property values: a list becomes a list of converted elements,
and an absent option becomes null.
-/

namespace PropertyGraph

/-- Types whose members turn into property values. -/
class ToValue (α : Type) where
  toValue : α → Value

export ToValue (toValue)

instance : ToValue Bool := ⟨.bool⟩

instance : ToValue Int64 := ⟨.int⟩

instance : ToValue Int32 := ⟨fun i => .int i.toInt64⟩

instance : ToValue Binary64 := ⟨.float⟩

instance : ToValue String := ⟨.string⟩

instance : ToValue Date := ⟨.date⟩

instance {α : Type} [ToValue α] : ToValue (List α) := ⟨fun l => .list (l.map toValue)⟩

instance {α : Type} [ToValue α] : ToValue (Option α) := ⟨fun o => (o.map toValue).getD .null⟩

end PropertyGraph
