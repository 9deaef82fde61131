/-!
Tables of code point ranges. A property of characters that follows no rule is given by an array of
inclusive ranges.
-/
namespace Formwork.Text

/-- Whether the character lies in one of the inclusive ranges of code points. -/
def inRanges (ranges : Array (Nat × Nat)) (c : Char) : Bool :=
  ranges.any (fun r => r.1 ≤ c.toNat && c.toNat ≤ r.2)

end Formwork.Text
