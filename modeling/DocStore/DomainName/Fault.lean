/-
  Why a text is no domain name.
-/

namespace DocStore.DomainName

/-- What is wrong with a domain name: its form as a whole, a character that is not permitted, one
    that is not permitted where it stands, or directions that do not go together. -/
inductive Fault where
  | malformed | character | context | direction
  deriving DecidableEq, Repr, Inhabited

end DocStore.DomainName
