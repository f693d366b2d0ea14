import Mathlib.Algebra.Group.Nat.Defs
import StreamPipelines.Sequencer

/-!
Tokens as numbers. As long as fewer than 2⁶⁴ tokens are issued, the counter of a sequencer is the
number of tokens it has issued, so a token tells how many were issued up to it.
-/

namespace StreamPipelines

theorem Token.lt_iff (t u : Token) : t < u ↔ t.value.toNat < u.value.toNat := Iff.rfl

theorem Token.ext_toNat {t u : Token} (h : t.value.toNat = u.value.toNat) : t = u := by
  cases t
  cases u
  exact congrArg Token.mk (UInt64.toNat_inj.mp h)

theorem Token.lt_irrefl (t : Token) : ¬ t < t := Nat.lt_irrefl _

theorem Token.lt_trans {t u v : Token} (h : t < u) (k : u < v) : t < v := Nat.lt_trans h k

theorem Token.lt_of_not_lt {t u : Token} (h : ¬ t < u) (other : t ≠ u) : u < t := by
  rw [Token.lt_iff] at *
  have : t.value.toNat ≠ u.value.toNat := fun same => other (Token.ext_toNat same)
  omega

namespace Sequencer

theorem toNat_issue (s : Sequencer) (n : Nat) (h : s.latest.toNat = n) (few : n + 1 < 2 ^ 64) :
    s.issue.1.value.toNat = n + 1 ∧ s.issue.2.latest.toNat = n + 1 := by
  have next : (s.latest + 1).toNat = n + 1 := by
    rw [UInt64.toNat_add, h]
    exact Nat.mod_eq_of_lt few
  exact ⟨next, next⟩

end Sequencer
end StreamPipelines
