import Mathlib.Tactic.Common
import Mathlib.Data.Nat.Notation
import Mathlib.Algebra.GroupWithZero.Nat

/-!
The sizes of small fixed tables and the comparison of machine words as instances that are
constants, so that an index or a membership test carries no proof of its own.
-/
namespace ProtoTime

instance size3 : NeZero 3 := ⟨by decide⟩
instance size4 : NeZero 4 := ⟨by decide⟩
instance size5 : NeZero 5 := ⟨by decide⟩
instance size8 : NeZero 8 := ⟨by decide⟩
instance size11 : NeZero 11 := ⟨by decide⟩
instance size16 : NeZero 16 := ⟨by decide⟩
instance size20 : NeZero 20 := ⟨by decide⟩
instance size23 : NeZero 23 := ⟨by decide⟩
instance size32 : NeZero 32 := ⟨by decide⟩
instance size64 : NeZero 64 := ⟨by decide⟩
instance size160 : NeZero 160 := ⟨by decide⟩
instance size4096 : NeZero 4096 := ⟨by decide⟩
instance size8192 : NeZero 8192 := ⟨by decide⟩
instance size16384 : NeZero 16384 := ⟨by decide⟩

instance lawfulByte : LawfulBEq (BitVec 8) := inferInstance
instance lawfulWord : LawfulBEq (BitVec 16) := inferInstance

end ProtoTime
