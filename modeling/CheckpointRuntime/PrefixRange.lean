import CheckpointRuntime.StoreEquivalence
import Mathlib.Data.List.Induction

/-!
# Prefixes as ranges of etcd

`get_prefix` of the dictionary asks `startswith` for every text key;
`get_prefix` of etcd asks for the bytes from the prefix up to `_prefix_end`.
The loop of `_prefix_end` goes through the bytes from the end; it computes the
raised prefix of the interval rule (`prefixEndLoop_eq`), so both answer with the
same entries.
-/

namespace CheckpointRuntime

open KeyedTable ByteKeys

/-! ## The end of a range -/

/-- The loop of `_prefix_end`; the argument is the number of bytes that are left
to look at. -/
def prefixEndLoop (start : Bytes) : Nat → Bytes
  | 0 => [0]
  | index + 1 =>
      let byte := start.getD index 0
      if byte < 0xFF then (start.set index (byte + 1)).take (index + 1)
      else prefixEndLoop start index

/-- Bytes behind those that are left to look at do not matter. -/
theorem prefixEndLoop_append (start rest : Bytes) :
    prefixEndLoop (start ++ rest) start.length = prefixEnd start := by
  induction start using List.reverseRecOn generalizing rest with
  | nil => rfl
  | append_singleton start byte ih =>
      have hbyte : (start ++ [byte] ++ rest).getD start.length 0 = byte := by
        simp
      rw [List.length_append, List.length_singleton, prefixEndLoop, hbyte, prefixEnd,
        bump_append_singleton]
      by_cases hlt : byte < 255
      · rw [if_pos hlt, if_pos hlt]
        simp [List.take_length_add_append]
      · rw [if_neg hlt, if_neg hlt, List.append_assoc]
        exact ih _

/-- The loop computes the end of the range. -/
theorem prefixEndLoop_eq (start : Bytes) :
    prefixEndLoop start start.length = prefixEnd start := by
  have h := prefixEndLoop_append start []
  rwa [List.append_nil] at h

/-- **The range of a prefix is exact.** -/
theorem prefix_iff_range (start key : Bytes) :
    start <+: key ↔ start ≤ key ∧ (key < prefixEndLoop start start.length ∨
      prefixEndLoop start start.length = [0]) := by
  rw [prefixEndLoop_eq, ← inRange_prefixEnd_iff, EtcdKVStore.inRange, Bool.and_eq_true,
    Bool.or_eq_true, decide_eq_true_eq, decide_eq_true_eq, decide_eq_true_eq, or_comm]

/-! ## The two listings -/

section
variable {β : Type}

/-- `key.startswith(prefix)`. -/
def startsWith (key start : String) : Bool := start.toList.isPrefixOf key.toList

/-- `InMemoryKVStore.get_prefix`, for values of any type. -/
def dictGetPrefix (data : Table (String × β) Prod.fst) (start : String) : List (Bytes × β) :=
  (data.rows.filter fun item => startsWith item.1 start).map fun item => (encode item.1, item.2)

/-- `EtcdKVStore.get_prefix`, for values of any type: the range from the prefix
to its end, in ascending order of keys. -/
def etcdGetPrefix (kvs : Table (Bytes × β) Prod.fst) (start : String) : List (Bytes × β) :=
  let rawPrefix := encode start
  let rangeEnd := prefixEndLoop rawPrefix rawPrefix.length
  (kvs.rows.filter fun kv => EtcdKVStore.inRange rawPrefix (some rangeEnd) kv.1).insertionSort
    fun a b => a.1 ≤ b.1

/-- Both stores hold the same items, in any order. -/
def SameContent (data : Table (String × β) Prod.fst) (kvs : Table (Bytes × β) Prod.fst) : Prop :=
  kvs.rows.Perm (data.rows.map fun item => (encode item.1, item.2))

/-- A text starts with another exactly if its bytes do. -/
theorem startsWith_iff (key start : String) :
    startsWith key start = true ↔ encode start <+: encode key := by
  rw [startsWith, List.isPrefixOf_iff_prefix]
  exact encodeChars_prefix_iff.symm

/-- Both listings have the same entries. -/
theorem etcdGetPrefix_perm {data : Table (String × β) Prod.fst} {kvs : Table (Bytes × β) Prod.fst}
    (h : SameContent data kvs) (start : String) :
    (etcdGetPrefix kvs start).Perm (dictGetPrefix data start) := by
  have hkeys : ∀ item : String × β,
      EtcdKVStore.inRange (encode start)
        (some (prefixEndLoop (encode start) (encode start).length)) (encode item.1) =
      startsWith item.1 start := by
    intro item
    rw [Bool.eq_iff_iff, startsWith_iff, prefixEndLoop_eq, inRange_prefixEnd_iff]
  refine (List.perm_insertionSort _ _).trans ((h.filter _).trans (.of_eq ?_))
  rw [List.filter_map, dictGetPrefix]
  refine congrArg _ (List.filter_congr fun item _ => ?_)
  exact hkeys item

/-- **The etcd prefix range is exact.**  As bytes, the keys with a prefix are
those from the prefix to its end; a text starts with another exactly if its
bytes do; and for a prefix that is not empty, which etcd would refuse as a key,
both stores answer with the same entries whatever they hold. -/
theorem prefix_range_exact :
    (∀ p k : Bytes, p ≠ [] → k ≠ [] →
      (p <+: k ↔ p ≤ k ∧ (k < prefixEndLoop p p.length ∨ prefixEndLoop p p.length = [0]))) ∧
    (∀ key start : String, startsWith key start = true ↔ encode start <+: encode key) ∧
    (∀ (data : Table (String × β) Prod.fst) (kvs : Table (Bytes × β) Prod.fst) (start : String),
      start ≠ "" → SameContent data kvs →
      (etcdGetPrefix kvs start).Perm (dictGetPrefix data start)) :=
  ⟨fun p k _ _ => prefix_iff_range p k, startsWith_iff,
    fun _ _ start _ h => etcdGetPrefix_perm h start⟩

end

/-- The entries of the test of the gateway, in the dictionary and in etcd. -/
def gatewayData : Table (String × String) Prod.fst :=
  ((Table.empty.put .atEnd ("/runs/a", "one")).put .atEnd ("/runs/b", "two")).put .atEnd
    ("/workers/a", "worker")

def gatewayKvs : Table (Bytes × String) Prod.fst :=
  ((Table.empty.put .atEnd (encode "/workers/a", "worker")).put .atEnd
    (encode "/runs/b", "two")).put .atEnd (encode "/runs/a", "one")

theorem sameContent_gateway : SameContent gatewayData gatewayKvs := by
  unfold SameContent
  decide

/-- Two prefixes with a byte at the maximum, and the listing of the test. -/
theorem prefix_range_of_gateway :
    ([0x2f, 0xff] <+: ([0x2f, 0xff, 0x00] : Bytes) ↔
      ([0x2f, 0xff] : Bytes) ≤ [0x2f, 0xff, 0x00] ∧
        (([0x2f, 0xff, 0x00] : Bytes) < [0x30] ∨ ([0x30] : Bytes) = [0])) ∧
    ([0xff] <+: ([0xff, 0x01] : Bytes) ↔
      ([0xff] : Bytes) ≤ [0xff, 0x01] ∧ (([0xff, 0x01] : Bytes) < [0] ∨ ([0] : Bytes) = [0])) ∧
    (etcdGetPrefix gatewayKvs "/runs/").Perm (dictGetPrefix gatewayData "/runs/") :=
  ⟨(prefix_range_exact (β := String)).1 [0x2f, 0xff] [0x2f, 0xff, 0x00] (by decide) (by decide),
    (prefix_range_exact (β := String)).1 [0xff] [0xff, 0x01] (by decide) (by decide),
    prefix_range_exact.2.2 gatewayData gatewayKvs "/runs/" (by decide) sameContent_gateway⟩

/-! ## The stores of the coordinator -/

theorem InMemoryKVStore.getPrefix_eq (s : InMemoryKVStore) (start : String) :
    s.getPrefix start = dictGetPrefix s.data start := rfl

theorem EtcdKVStore.getPrefix_eq (s : EtcdKVStore) (start : String) :
    s.getPrefix start = etcdGetPrefix s.kvs start := by
  unfold EtcdKVStore.getPrefix etcdGetPrefix
  dsimp only
  rw [prefixEndLoop_eq]
  rfl

/-- Twins list the same entries under every prefix. -/
theorem Twins.getPrefix_perm {c : StoreCoordinator InMemoryKVStore}
    {c' : StoreCoordinator EtcdKVStore} (h : Twins c c') (start : String) :
    (c'.kv.getPrefix start).Perm (c.kv.getPrefix start) := by
  rw [EtcdKVStore.getPrefix_eq, InMemoryKVStore.getPrefix_eq]
  exact etcdGetPrefix_perm (.of_eq h.kvs) start

end CheckpointRuntime
