import Mathlib.Data.List.Perm.Subperm
import Sandwich.Proofs.Chain.Account
import Sandwich.Proofs.Chain.Interleaving

/-! Nonces stay in order however the sendings take turns. A sending has at most
one transaction taken, and its result tells whether one was. So the transactions
of each sender are no more than its sendings, and they bear consecutive nonces. -/

namespace Sandwich

open Operation

namespace Dispatch

def Spent : Except Failure Receipt → Prop
  | .ok _ | .error (.receiptUnavailable _ _ _) | .error (.reverted _ _) => True
  | _ => False

variable {scheme : Scheme} {d : Dispatch} {s : Sequencer} {a : Answers} {ms : List Moment}
  {result : Except Failure Receipt}

theorem taken?_settlement {policy : FeePolicy} {tip gasPrice : UInt128}
    {settled : Except Failure Fees} (h : policy.Settlement tip gasPrice ms settled) :
    ms.filterMap (Chain.taken? scheme) = [] := by
  rw [List.filterMap_eq_nil_iff]
  intro m hm
  obtain ⟨_, rfl⟩ | ⟨_, rfl⟩ := h.eq_of_mem hm
  · rfl
  · rfl

theorem taken?_prepared : (d.prepared s a).filterMap (Chain.taken? scheme) = [] := by
  rw [prepared, List.filterMap_cons_none rfl, List.filterMap_append, taken?_settlement .settled]
  rfl

theorem taken?_ready : (d.ready s a).filterMap (Chain.taken? scheme) = [] := by
  rw [ready, List.filterMap_append, taken?_prepared]
  rfl

theorem taken?_sent :
    (d.sent s a).filterMap (Chain.taken? scheme) = (scheme.decode a.raw).toOption.toList := by
  rw [sent, List.filterMap_append, taken?_ready, List.nil_append]
  rfl

/-- Only a course that has spent the nonce has had its transaction taken. -/
theorem taken?_of_course (h : d.Course s a ms result) :
    (Spent result ∧ ms.filterMap (Chain.taken? scheme) = (scheme.decode a.raw).toOption.toList ∧
      signed (d.request s a.nonce a.fees) (.ok a.raw) ∈ ms ∧
      asked (.transactionCount s.sender) (.ok a.nonce) ∈ ms) ∨
    (¬ Spent result ∧ ms.filterMap (Chain.taken? scheme) = []) := by
  cases h with
  | uncounted e => exact .inr ⟨id, rfl⟩
  | unsettled h =>
    rw [List.filterMap_cons_none rfl, taken?_settlement h]
    obtain ⟨step, e, rfl⟩ | ⟨cap, least, rfl⟩ := h.exists_of_error
    · exact .inr ⟨id, rfl⟩
    · exact .inr ⟨id, rfl⟩
  | unsigned _ e =>
    refine .inr ⟨id, ?_⟩
    rw [List.filterMap_append, taken?_prepared]
    rfl
  | rejected _ e =>
    refine .inr ⟨id, ?_⟩
    rw [List.filterMap_append, taken?_ready]
    rfl
  | lost _ _ | reverted _ _ | confirmed _ _ =>
    refine .inl ⟨trivial, ?_, by simp, by simp⟩
    rw [List.filterMap_append, taken?_sent]
    exact List.append_nil _

/-- A dispatch that a signer signs for has at most one transaction taken. It is the signer's, and
bears the nonce that was read. -/
theorem taken?_of_runs {signer : Signer} (hread : signer.ReadBack scheme)
    (h : Runs (d.send s) ms result)
    (hhonest : ∀ act reply, .acted act reply ∈ ms → signer.Signs act reply) :
    (Spent result ∧ ∃ own nonce fees, ms.filterMap (Chain.taken? scheme) = [own] ∧
      scheme.sender? own = some signer.address ∧ own.transaction = d.transaction s nonce fees ∧
      asked (.transactionCount s.sender) (.ok nonce) ∈ ms) ∨
    (¬ Spent result ∧ ms.filterMap (Chain.taken? scheme) = []) := by
  obtain ⟨a, hcourse⟩ := course_of_runs h
  obtain ⟨hspent, htaken, hsigned, hcounted⟩ | hunspent := taken?_of_course hcourse
  · obtain ⟨own, hdecode, hcomplete, hsender⟩ := hread _ _ (hhonest (.sign _) _ hsigned).symm
    refine .inl ⟨hspent, own, a.nonce, a.fees, ?_, hsender, ?_, hcounted⟩
    · rw [htaken, hdecode]
      rfl
    · rw [complete_request] at hcomplete
      exact (Except.ok.inj hcomplete).symm
  · exact .inr hunspent

end Dispatch

namespace Sending

variable {scheme : Scheme} {x : Sending}

/-- The transactions taken of a sending that is over are told by its result. -/
theorem taken_of_done (hx : x.Coherent) (hread : x.signer.ReadBack scheme)
    {result : Except Failure Receipt} (hdone : x.rest = .done result) :
    (Dispatch.Spent result ∧ ∃ own nonce fees, x.taken scheme = [own] ∧
      scheme.sender? own = some x.signer.address ∧
      own.transaction = x.dispatch.transaction x.sequencer nonce fees ∧
      asked (.transactionCount x.signer.address) (.ok nonce) ∈ x.moments) ∨
    (¬ Dispatch.Spent result ∧ x.taken scheme = []) := by
  have hpath := hx.path
  rw [hdone] at hpath
  exact Dispatch.taken?_of_runs hread hpath hx.honest

/-- What is taken of a sending, be it over or not, is at most one transaction of its signer. -/
theorem taken_of_coherent (hx : x.Coherent) (hread : x.signer.ReadBack scheme) :
    (x.taken scheme).length ≤ 1 ∧
      ∀ own ∈ x.taken scheme, scheme.sender? own = some x.signer.address := by
  -- What is to be done can be followed to an end, and the end tells what can be taken.
  obtain ⟨ms, result, hrest, hms⟩ := Program.exists_runs (Signer.exists_signs x.signer) x.rest
  have hruns : Runs (x.dispatch.send x.sequencer) (x.moments ++ ms) result := hx.path.trans hrest
  have hhonest : ∀ act reply, .acted act reply ∈ x.moments ++ ms → x.signer.Signs act reply := by
    intro act reply h
    obtain h | h := List.mem_append.mp h
    · exact hx.honest act reply h
    · exact hms act reply h
  have hsub : x.taken scheme <+: (x.moments ++ ms).filterMap (Chain.taken? scheme) := by
    rw [List.filterMap_append]
    exact List.prefix_append _ _
  obtain ⟨-, own, nonce, fees, htaken, hsender, -, -⟩ | ⟨-, htaken⟩ :=
    Dispatch.taken?_of_runs hread hruns hhonest
  · rw [htaken] at hsub
    refine ⟨hsub.length_le, fun own' h => ?_⟩
    rw [List.mem_singleton.mp (hsub.subset h)]
    exact hsender
  · rw [htaken] at hsub
    rw [List.prefix_nil.mp hsub]
    exact ⟨Nat.zero_le _, fun own' h => nomatch h⟩

end Sending

namespace World

open Chain

variable {scheme : Scheme} {c : Settings} {first : State} {w : World}

theorem mem_own_iff {i : Nat} {own : SignedTransaction} : own ∈ w.own i ↔ (i, own) ∈ w.taken := by
  simp [World.own]

theorem Invariant.exists_sending (h : Invariant scheme first w) {i : Nat}
    {own : SignedTransaction} (hown : (i, own) ∈ w.taken) :
    ∃ x, w.sendings[i]? = some x ∧ own ∈ x.taken scheme := by
  rw [← mem_own_iff, h.own i] at hown
  cases hx : w.sendings[i]? with
  | none => simp [hx] at hown
  | some x => exact ⟨x, rfl, by simpa [hx] using hown⟩

theorem Invariant.length_own_le (h : Invariant scheme first w)
    (hread : ∀ x ∈ w.sendings, x.signer.ReadBack scheme) (i : Nat) : (w.own i).length ≤ 1 := by
  rw [h.own i]
  cases hx : w.sendings[i]? with
  | none => exact Nat.zero_le 1
  | some x =>
    have hmem := List.mem_of_getElem? hx
    exact (Sending.taken_of_coherent (h.coherent x hmem) (hread x hmem)).1

theorem Invariant.nodup_numbers (h : Invariant scheme first w)
    (hread : ∀ x ∈ w.sendings, x.signer.ReadBack scheme) : (w.taken.map (·.1)).Nodup := by
  rw [List.nodup_iff_count]
  intro i
  calc (w.taken.map (·.1)).count i
    _ = (w.own i).length := by
      rw [World.own, List.length_map, List.count, List.countP_map, List.countP_eq_length_filter]
      rfl
    _ ≤ 1 := h.length_own_le hread i

theorem Invariant.length_sentBy_le (h : Invariant scheme first w)
    (hread : ∀ x ∈ w.sendings, x.signer.ReadBack scheme) (a : Address) :
    (sentBy scheme a (w.taken.map (·.2))).length ≤
      w.sendings.countP fun x => x.signer.address = a := by
  let numbers := (w.taken.filter fun t => scheme.sender? t.2 = some a).map (·.1)
  let indices := (w.sendings.zipIdx.filter fun t => t.1.signer.address = a).map (·.2)
  have hnumbers : (sentBy scheme a (w.taken.map (·.2))).length = numbers.length := by
    rw [sentBy, List.filter_map, List.length_map, List.length_map]
    rfl
  have hindices : indices.length = w.sendings.countP fun x => x.signer.address = a := by
    rw [List.length_map, ← List.countP_eq_length_filter]
    conv_rhs => rw [← List.zipIdx_map_fst 0 w.sendings, List.countP_map]
    rfl
  have hnodup : numbers.Nodup :=
    (h.nodup_numbers hread).sublist (List.filter_sublist.map _)
  have hsubset : numbers ⊆ indices := by
    intro i hi
    obtain ⟨⟨i, own⟩, hown, rfl⟩ := List.mem_map.mp hi
    obtain ⟨hmem, hsender⟩ := List.mem_filter.mp hown
    obtain ⟨x, hx, htaken⟩ := h.exists_sending hmem
    have hxmem := List.mem_of_getElem? hx
    have hsigner := (Sending.taken_of_coherent (h.coherent x hxmem) (hread x hxmem)).2 own htaken
    have haddress : x.signer.address = a :=
      Option.some.inj (hsigner.symm.trans (of_decide_eq_true hsender))
    have hindex : (x, i) ∈ w.sendings.zipIdx := List.mk_mem_zipIdx_iff_getElem?.mpr hx
    exact List.mem_map.mpr ⟨(x, i), List.mem_filter.mpr ⟨hindex, decide_eq_true haddress⟩, rfl⟩
  rw [hnumbers, ← hindices]
  exact (hnodup.subperm hsubset).length_le

/-- The order that nonces keep in a world that has come from a chain in the state `first`. -/
structure NonceSafe (scheme : Scheme) (c : Settings) (first : State) (w : World) : Prop where
  submitted : w.chain.submitted = first.submitted ++ w.taken.map (·.2)
  /-- With room for all its sendings, a sender's transactions bear consecutive nonces. -/
  consecutive (a : Address) :
    (first.nonces.getD a 0).toNat + (w.sendings.countP fun x => x.signer.address = a) < UInt64.size →
      (sentBy scheme a (w.taken.map (·.2))).map (·.transaction.nonce.toNat) =
          List.range' (first.nonces.getD a 0).toNat
            (sentBy scheme a (w.taken.map (·.2))).length ∧
        (w.chain.nonces.getD a 0).toNat =
          (first.nonces.getD a 0).toNat + (sentBy scheme a (w.taken.map (·.2))).length
  /-- The result of a sending that is over tells whether a transaction of its own was taken. -/
  told (i : Nat) (x : Sending) (result : Except Failure Receipt) :
    w.sendings[i]? = some x → x.rest = .done result →
      (Dispatch.Spent result ↔ ∃ own nonce fees, w.own i = [own] ∧
        own.transaction = x.dispatch.transaction x.sequencer nonce fees ∧
        asked (.transactionCount x.signer.address) (.ok nonce) ∈ x.moments) ∧
      (¬ Dispatch.Spent result ↔ w.own i = [])
  /-- All that a submission changes if it is refused is that a scripted refusal is not due. -/
  refused (raw : Bytes) (e : ClientError) (after : State) :
    answer scheme c (.sendRaw raw) w.chain = (.error e, after) →
      after = { w.chain with rejectNext := after.rejectNext }

theorem Invariant.told (h : Invariant scheme first w) {i : Nat} {x : Sending}
    (hread : x.signer.ReadBack scheme) (hx : w.sendings[i]? = some x)
    {result : Except Failure Receipt} (hdone : x.rest = .done result) :
    (Dispatch.Spent result ↔ ∃ own nonce fees, w.own i = [own] ∧
      own.transaction = x.dispatch.transaction x.sequencer nonce fees ∧
      asked (.transactionCount x.signer.address) (.ok nonce) ∈ x.moments) ∧
    (¬ Dispatch.Spent result ↔ w.own i = []) := by
  have hown : w.own i = x.taken scheme := by
    rw [h.own i, hx]
    rfl
  have hcoherent := h.coherent x (List.mem_of_getElem? hx)
  obtain ⟨hspent, own, nonce, fees, htaken, -, htransaction, hcounted⟩ | ⟨hunspent, htaken⟩ :=
    Sending.taken_of_done hcoherent hread hdone
  · rw [← hown] at htaken
    refine ⟨iff_of_true hspent ⟨own, nonce, fees, htaken, htransaction, hcounted⟩, ?_⟩
    exact iff_of_false (not_not_intro hspent) (by simp [htaken])
  · rw [← hown] at htaken
    refine ⟨iff_of_false hunspent ?_, iff_of_true hunspent htaken⟩
    rintro ⟨own, nonce, fees, hone, -, -⟩
    rw [htaken] at hone
    cases hone

/-- Whatever moves are made, and in whatever order, nonces keep their order. -/
theorem nonceSafe_after (scheme : Scheme) (c : Settings) (first : State) (moves : List Move)
    (hread : ∀ x ∈ (after scheme c first moves).sendings, x.signer.ReadBack scheme) :
    NonceSafe scheme c first (after scheme c first moves) := by
  have h := invariant_after scheme c first moves
  exact {
    submitted := h.numbered.submitted
    consecutive := fun a hroom => h.numbered.consecutive a
      (Nat.lt_of_le_of_lt (Nat.add_le_add_left (h.length_sentBy_le hread a) _) hroom)
    told := fun i x result hx hdone => h.told (hread x (List.mem_of_getElem? hx)) hx hdone
    refused := fun raw e after herror => answer_sendRaw_of_error scheme c herror }

/-! ### Two sendings for one nonce -/

def raceDispatch : Dispatch where
  receiver := Octets.ofNat 20 0x70997970c51812dc3a010c7d01b50e0d17dc79c8
  input := []
  value := 1
  policy := .legacy (some 20000000000)
  gasLimit := 21000

def raceTransfer : SignedDispatch where
  dispatch := raceDispatch
  nonce := 7
  signature := {
    odd := false
    r := 0x75da845497802cc06dd30c236a2393554dd0c17f92297c75604fc180e169968b
    s := 0x701dd32f3f5058756f8e8d37437e15e5c3e716461d6290d9db852279d00b6499 }
  hash := Octets.ofNat 32 0x1e581916f6bbc124358b5519bfb0d9a009b17e9b0cc87e563f8227ea351423cd

def raceScheme : Scheme := schemeOf [raceTransfer]

def racer : Signer := signerOf [raceTransfer]

theorem racer_readBack : racer.ReadBack raceScheme := readBack_signerOf (by decide +kernel)

def raceStart : State where
  nonces := Table.ofList [(devAccount, 7)]
  balances := Table.ofList [(devAccount, 1000)]

/-- The transfer is sent twice, by turns, so that the same nonce is read both times. -/
def race : List Move :=
  [.start racer 1 raceDispatch, .start racer 1 raceDispatch] ++
    (List.replicate 5 [Move.turn 0, Move.turn 1]).flatten ++ List.replicate 3 (.turn 0)

/-- Only the first of the two transfers is taken. -/
theorem nonceSafe_after_race :
    (∀ x ∈ (after raceScheme {} raceStart race).sendings, x.signer.ReadBack raceScheme) ∧
      NonceSafe raceScheme {} raceStart (after raceScheme {} raceStart race) ∧
      (after raceScheme {} raceStart race).taken = [(0, raceTransfer.signed)] := by
  have hread : ∀ x ∈ (after raceScheme {} raceStart race).sendings,
      x.signer.ReadBack raceScheme := by
    intro x hx
    have horigin := origin_mem_of_mem_after hx
    have hstart : x.signer = racer ∧ x.chainId = 1 ∧ x.dispatch = raceDispatch := by
      simpa [race, Sending.origin] using horigin
    rw [hstart.1]
    exact racer_readBack
  exact ⟨hread, nonceSafe_after raceScheme {} raceStart race hread, by decide +kernel⟩

end World

end Sandwich
