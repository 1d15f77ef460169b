namespace TokenStream.Text

/-- Whether one of the ranges contains the code point.  The ranges are in increasing order, so the
search stops at the first one that starts above the code point. -/
def covers : List (Nat × Nat) → Nat → Bool
  | [], _ => false
  | (first, last) :: rest, code => first ≤ code && (code ≤ last || covers rest code)

@[simp]
theorem covers_nil (code : Nat) : covers [] code = false := rfl

end TokenStream.Text
