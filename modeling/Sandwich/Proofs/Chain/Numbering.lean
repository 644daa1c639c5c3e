import Sandwich.Proofs.Chain.Submission

/-! The nonces of the transactions that a chain takes. Those of each sender count
up from the nonce that the sender had at the start, and the next nonce is the one
after them. -/

namespace Sandwich.Chain

variable (scheme : Scheme)

def sentBy (a : Address) (taken : List SignedTransaction) : List SignedTransaction :=
  taken.filter fun signed => scheme.sender? signed = some a

theorem sentBy_append (a : Address) (taken taken' : List SignedTransaction) :
    sentBy scheme a (taken ++ taken') = sentBy scheme a taken ++ sentBy scheme a taken' :=
  List.filter_append ..

theorem sentBy_concat_self {a : Address} {signed : SignedTransaction}
    (h : scheme.sender? signed = some a) (taken : List SignedTransaction) :
    sentBy scheme a (taken ++ [signed]) = sentBy scheme a taken ++ [signed] := by
  simp [sentBy, h]

theorem sentBy_concat_of_ne {a sender : Address} {signed : SignedTransaction}
    (h : scheme.sender? signed = some sender) (hne : sender ≠ a) (taken : List SignedTransaction) :
    sentBy scheme a (taken ++ [signed]) = sentBy scheme a taken := by
  simp [sentBy, h, hne]

/-- The chain has got from `start` to `s` by taking the transactions `taken`, and has numbered
them for each sender. The numbers wrap around at the end of the range. -/
structure Numbered (start s : State) (taken : List SignedTransaction) : Prop where
  submitted : s.submitted = start.submitted ++ taken
  nonces (a : Address) : (sentBy scheme a taken).map (·.transaction.nonce) =
    (List.range (sentBy scheme a taken).length).map fun i =>
      start.nonces.getD a 0 + UInt64.ofNat i
  next (a : Address) : s.nonces.getD a 0 =
    start.nonces.getD a 0 + UInt64.ofNat (sentBy scheme a taken).length

variable {scheme} {start s s' : State} {taken : List SignedTransaction}

theorem numbered_start : Numbered scheme start start [] where
  submitted := (List.append_nil _).symm
  nonces _ := rfl
  next _ := (UInt64.add_zero _).symm

theorem Numbered.step (h : Numbered scheme start s taken) {t : Option SignedTransaction}
    (he : Effect scheme s s' t) : Numbered scheme start s' (taken ++ t.toList) := by
  cases he with
  | quiet hsame =>
    obtain ⟨hnonces, hsubmitted⟩ := hsame
    rw [Option.toList_none, List.append_nil]
    exact {
      submitted := hsubmitted.trans h.submitted
      nonces := h.nonces
      next := fun a => by rw [hnonces, h.next a] }
  | @takes signed sender hsender hturn hnonces hsubmitted =>
    refine ⟨?_, ?_, ?_⟩
    · rw [hsubmitted, h.submitted, List.append_assoc]
      rfl
    · intro a
      by_cases ha : sender = a
      · subst ha
        rw [Option.toList_some, sentBy_concat_self scheme hsender, List.map_append, h.nonces,
          List.length_append, List.length_singleton, List.range_succ, List.map_append,
          List.map_singleton, List.map_singleton, hturn, h.next]
      · rw [Option.toList_some, sentBy_concat_of_ne scheme hsender ha, h.nonces]
    · intro a
      rw [hnonces, Table.getD_set]
      by_cases ha : sender = a
      · subst ha
        rw [if_pos rfl, hturn, h.next, Option.toList_some, sentBy_concat_self scheme hsender,
          List.length_append, List.length_singleton, UInt64.add_assoc]
        congr 1
        exact (UInt64.ofNat_add _ _).symm
      · rw [if_neg ha, Option.toList_some, sentBy_concat_of_ne scheme hsender ha, h.next]

/-- As long as the numbers do not reach the end of the range, they do not wrap around. -/
theorem toNat_add_ofNat {n : UInt64} {i : Nat} (h : n.toNat + i < UInt64.size) :
    (n + UInt64.ofNat i).toNat = n.toNat + i := by
  rw [UInt64.toNat_add, UInt64.toNat_ofNat', Nat.add_mod_mod, Nat.mod_eq_of_lt h]

/-- With room for them in the range, the nonces of a sender are consecutive numbers. -/
theorem Numbered.consecutive (h : Numbered scheme start s taken) (a : Address)
    (hroom : (start.nonces.getD a 0).toNat + (sentBy scheme a taken).length < UInt64.size) :
    (sentBy scheme a taken).map (·.transaction.nonce.toNat) =
        List.range' (start.nonces.getD a 0).toNat (sentBy scheme a taken).length ∧
      (s.nonces.getD a 0).toNat =
        (start.nonces.getD a 0).toNat + (sentBy scheme a taken).length := by
  refine ⟨?_, ?_⟩
  · have hnonces := congrArg (List.map UInt64.toNat) (h.nonces a)
    rw [List.map_map, List.map_map] at hnonces
    rw [List.range'_eq_map_range]
    refine hnonces.trans (List.map_congr_left fun i hi => ?_)
    have hlt := List.mem_range.mp hi
    exact toNat_add_ofNat (by omega)
  · rw [h.next, toNat_add_ofNat hroom]

end Sandwich.Chain
