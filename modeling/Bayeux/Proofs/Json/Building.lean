import Bayeux.Json.Reader
import Bayeux.Proofs.Json.Scanning

namespace Bayeux
namespace Json

/-!
# Building what was scanned

The tokens of a value build its outline: a tree of the same shape in which every list and
every object is closed.  Wherever the value stands, its tokens fill the place that is
due and leave all that is around it as it was.
-/

/-! ## The outline of a value -/

mutual

def Value.outline : Value → Outline
  | .null => .null
  | .truth value => .truth value
  | .number n => .number n.reading
  | .string text => .string (.ok text)
  | .array items => .list (Value.itemOutlines items)
  | .object members => .object (Value.memberOutlines members)

def Value.itemOutlines : List Value → Items
  | [] => .stop .closed
  | v :: vs => .item v.outline (Value.itemOutlines vs)

def Value.memberOutlines : List (String × Value) → Fields
  | [] => .stop .closed
  | (key, v) :: members => .field (.ok key) v.outline (Value.memberOutlines members)

end

namespace Outline
namespace Builder

/-- A value may begin an open list, and no value begins with the end of one. -/
theorem foldl_tokens_firstItem (stack : List Slot) (v : Value) :
    v.tokens.foldl step { stack, phase := .firstItem } =
      v.tokens.foldl step { stack := .item [] :: stack, phase := .value } := by
  cases v with
  | null => rfl
  | truth value => rfl
  | number n => rfl
  | string text => rfl
  | array items => cases items <;> rfl
  | object members =>
      cases members with
      | nil => rfl
      | cons member rest => rfl

mutual

/-- The tokens of a value fill the place that is due. -/
theorem foldl_tokens : ∀ (v : Value) (stack : List Slot),
    v.tokens.foldl step { stack, phase := .value } =
      ({ stack, phase := .value } : Builder).fill v.outline
  | .null, stack => rfl
  | .truth value, stack => rfl
  | .number n, stack => rfl
  | .string text, stack => rfl
  | .array [], stack => by
      cases stack with
      | nil => rfl
      | cons slot rest => cases slot <;> rfl
  | .array (v :: vs), stack => by
      rw [Value.tokens, Value.outline, Value.itemOutlines, List.foldl_cons]
      have opened : ({ stack, phase := .value } : Builder).step .openList =
          { stack, phase := .firstItem } := rfl
      rw [opened, List.foldl_append, foldl_tokens_firstItem, foldl_tokens v]
      exact foldl_itemTokens vs stack [v.outline]
  | .object [], stack => by
      cases stack with
      | nil => rfl
      | cons slot rest => cases slot <;> rfl
  | .object ((key, v) :: members), stack => by
      rw [Value.tokens, Value.outline, Value.memberOutlines, List.foldl_cons, List.foldl_cons,
        List.foldl_cons]
      have opened : ((({ stack, phase := .value } : Builder).step .openObject).step
          (.string (.ok key))).step .colon =
            { stack := .field [] (.ok key) :: stack, phase := .value } := rfl
      rw [opened, List.foldl_append, foldl_tokens v]
      exact foldl_memberTokens members stack [(.ok key, v.outline)]

/-- The remaining items of a list and its end. -/
theorem foldl_itemTokens : ∀ (vs : List Value) (stack : List Slot) (before : List Outline),
    (Value.itemTokens vs ++ [Token.closeList]).foldl step { stack, phase := .afterItem before } =
      ({ stack, phase := .value } : Builder).fill
        (.list (before.foldl (fun rest value => .item value rest) (Value.itemOutlines vs)))
  | [], stack, before => by
      cases stack with
      | nil => rfl
      | cons slot rest => cases slot <;> rfl
  | v :: vs, stack, before => by
      rw [Value.itemTokens, List.cons_append, List.foldl_cons, List.append_assoc,
        List.foldl_append]
      have separated : ({ stack, phase := .afterItem before } : Builder).step .comma =
          { stack := .item before :: stack, phase := .value } := rfl
      rw [separated, foldl_tokens v]
      exact foldl_itemTokens vs stack (v.outline :: before)

/-- The remaining members of an object and its end. -/
theorem foldl_memberTokens : ∀ (members : List (String × Value)) (stack : List Slot)
    (before : List (Key × Outline)),
    (Value.memberTokens members ++ [Token.closeObject]).foldl step
        { stack, phase := .afterField before } =
      ({ stack, phase := .value } : Builder).fill
        (.object (before.foldl (fun rest field => .field field.1 field.2 rest)
          (Value.memberOutlines members)))
  | [], stack, before => by
      cases stack with
      | nil => rfl
      | cons slot rest => cases slot <;> rfl
  | (key, v) :: members, stack, before => by
      rw [Value.memberTokens, List.cons_append, List.cons_append, List.cons_append,
        List.foldl_cons, List.foldl_cons, List.foldl_cons, List.append_assoc, List.foldl_append]
      have separated : ((({ stack, phase := .afterField before } : Builder).step .comma).step
          (.string (.ok key))).step .colon =
            { stack := .field before (.ok key) :: stack, phase := .value } := rfl
      rw [separated, foldl_tokens v]
      exact foldl_memberTokens members stack ((.ok key, v.outline) :: before)

end
end Builder

/-- The tokens of a value build its outline, and nothing follows it. -/
theorem ofTokens_tokens (v : Value) : ofTokens v.tokens = (v.outline, false) := by
  unfold ofTokens
  rw [Builder.foldl_tokens v []]
  rfl

end Outline

/-- Whatever is read from a text of a value is read from its outline. -/
theorem readText_of_isTextOf {α : Type} (read : Outline → Except Fault α) {v : Value}
    {text : String} (literals : ∀ n ∈ v.numbers, n.IsLiteral) (spelled : v.IsTextOf text) :
    readText read text.toList = read v.outline := by
  unfold readText
  rw [Value.scan_of_isTextOf literals spelled, Outline.ofTokens_tokens]
  simp only []
  cases read v.outline with
  | error fault => rfl
  | ok value => rfl

end Json
end Bayeux
