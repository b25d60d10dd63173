import RouteCatalog.Number.Decimal

/-!
# Rate limits

The number of requests per minute that an endpoint accepts. `RateLimit.ofLiteral` reads a literal;
whatever is neither `false` nor an integer leaves the limit unset.
-/

namespace RouteCatalog

/-- The rate limit of an endpoint. -/
inductive RateLimit where
  /-- Nothing is said, so the default applies. -/
  | unset
  /-- There is no limit. -/
  | disabled
  /-- The limit in requests per minute. -/
  | perMinute (requests : Int)
  deriving DecidableEq, Repr

namespace RateLimit

/-- The limit that a literal states. -/
def ofLiteral (literal : Text) : RateLimit :=
  let trimmed := literal.trim
  if trimmed = "false".toList then disabled
  else
    match readInteger? trimmed with
    | some requests => perMinute requests
    | none => unset

/-- The first limit if it says anything, and otherwise the second. -/
def orElse (preferred fallback : RateLimit) : RateLimit :=
  if preferred = unset then fallback else preferred

/-- Of two limits neither says anything exactly if both are unset. -/
theorem orElse_eq_unset_iff {preferred fallback : RateLimit} :
    preferred.orElse fallback = unset ↔ preferred = unset ∧ fallback = unset := by
  unfold orElse
  split <;> simp_all

end RateLimit

end RouteCatalog
