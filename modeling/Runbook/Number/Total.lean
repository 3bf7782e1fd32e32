/-! Sums of whole numbers. -/
namespace Runbook

def total (numbers : List Nat) : Nat := numbers.foldr (· + ·) 0

end Runbook
