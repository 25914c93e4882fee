import IdentSearch.Text.CharSet

/-!
What a user can choose about matching.
-/

namespace IdentSearch

structure Options where
  locale : Option Text := none
  allowFuzzy : Bool := false
  allowSubstring : Bool := false
  includeSpans : Bool := false
  -- The characters between container parts. Without them a candidate is matched as a whole.
  separators : Option CharSet := none
deriving DecidableEq

namespace Options

def usesContainers (o : Options) : Bool := o.separators.isSome

end Options
end IdentSearch
