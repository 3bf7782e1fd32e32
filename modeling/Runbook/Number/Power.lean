/-! Powers of two and of ten as whole numbers. -/
namespace Runbook

abbrev twoTo (n : Nat) : Nat := Nat.pow 2 n

abbrev tenTo (n : Nat) : Nat := Nat.pow 10 n

end Runbook
