import Mathlib.Data.List.Induction
import Sandwich.Proofs.Chain.Numbering
import Sandwich.Proofs.Sequencer.Course

/-! Many transactions on their way to one chain. Each of them is a program that is
under way, and the programs take turns in any order, one step at a time. Between
the steps new ones are started, and faults are scripted. -/

namespace Sandwich

open Operation

/-- A dispatch that is under way. -/
structure Sending where
  signer : Signer
  chainId : UInt64
  dispatch : Dispatch
  /-- What has happened so far. -/
  moments : List Moment
  /-- What is still to be done. -/
  rest : Program Act.Reply (Except Failure Receipt)

namespace Sending

def sequencer (x : Sending) : Sequencer := ⟨x.signer.address, x.chainId⟩

def program (x : Sending) : Program Act.Reply (Except Failure Receipt) :=
  (x.dispatch.send x.sequencer).run

def advance (x : Sending) (m : Moment) (rest : Program Act.Reply (Except Failure Receipt)) :
    Sending :=
  { x with moments := x.moments ++ [m], rest }

def taken (scheme : Scheme) (x : Sending) : List SignedTransaction :=
  x.moments.filterMap (Chain.taken? scheme)

end Sending

/-- A chain, and all that is on its way to it. -/
structure World where
  chain : Chain.State
  sendings : List Sending := []
  /-- The transactions that the chain has taken, each with the number of the sending it is of. -/
  taken : List (Nat × SignedTransaction) := []

inductive Move
  /-- A further dispatch is to be sent. -/
  | start (signer : Signer) (chainId : UInt64) (dispatch : Dispatch)
  /-- The sending with this number takes its next step. -/
  | turn (i : Nat)
  | rejectNext (reason : String)
  | loseNextReceipt (reason : String)
  | revertCalls (receiver : Address)

def Sending.origin (x : Sending) : Move := .start x.signer x.chainId x.dispatch

namespace World

variable (scheme : Scheme) (c : Chain.Settings)

/-- The sending `x`, which has the number `i`, takes its next step. -/
def turn (w : World) (i : Nat) (x : Sending) : World :=
  match x.rest with
  | .done _ => w
  | .report event next => { w with sendings := w.sendings.set i (x.advance (.reported event) next) }
  | .act act next =>
    let (reply, chain) := Chain.reply scheme c x.signer act w.chain
    { chain
      sendings := w.sendings.set i (x.advance (.acted act reply) (next reply))
      taken := w.taken ++ (chain.submitted.drop w.chain.submitted.length).map (i, ·) }

def step (w : World) : Move → World
  | .start signer chainId dispatch =>
    { w with sendings := w.sendings ++
      [⟨signer, chainId, dispatch, [], (dispatch.send ⟨signer.address, chainId⟩).run⟩] }
  | .turn i =>
    match w.sendings[i]? with
    | some x => w.turn scheme c i x
    | none => w
  | .rejectNext reason => { w with chain.rejectNext := some reason }
  | .loseNextReceipt reason => { w with chain.loseNextReceipt := some reason }
  | .revertCalls receiver => { w with chain.reverting := receiver :: w.chain.reverting }

/-- The world that moves lead to, with nothing on its way at the start. -/
def after (start : Chain.State) (moves : List Move) : World :=
  moves.foldl (step scheme c) { chain := start }

/-- The transactions that the chain has taken from the sending with this number. -/
def own (w : World) (i : Nat) : List SignedTransaction :=
  (w.taken.filter (·.1 = i)).map (·.2)

end World

theorem Sending.taken_advance (scheme : Scheme) (x : Sending) (m : Moment)
    (rest : Program Act.Reply (Except Failure Receipt)) :
    (x.advance m rest).taken scheme = x.taken scheme ++ (Chain.taken? scheme m).toList := by
  rw [taken, taken, advance, List.filterMap_append]
  rfl

/-! ### What every sequence of moves keeps -/

/-- The reply is one that can be had where this signer signs. -/
def Signer.Signs (signer : Signer) : (act : Act) → act.Reply → Prop
  | .sign request, reply => reply = signer.sign request
  | .query _, _ => True

theorem Signer.exists_signs (signer : Signer) (act : Act) : ∃ reply, signer.Signs act reply := by
  cases act with
  | query q => exact ⟨.error (.other ""), trivial⟩
  | sign request => exact ⟨signer.sign request, rfl⟩

theorem Chain.signs_reply (scheme : Scheme) (c : Settings) (signer : Signer) (act : Act)
    (s : State) : signer.Signs act (reply scheme c signer act s).1 := by
  cases act with
  | query q => trivial
  | sign request => rfl

/-- What has happened and what is to be done fit together, and the signatures are the signer's. -/
structure Sending.Coherent (x : Sending) : Prop where
  path : Program.Path x.program x.moments x.rest
  honest (act : Act) (reply : act.Reply) : .acted act reply ∈ x.moments → x.signer.Signs act reply

theorem Sending.Coherent.advance {x : Sending} (hx : x.Coherent) {m : Moment}
    {rest : Program Act.Reply (Except Failure Receipt)} (hpath : Program.Path x.rest [m] rest)
    (hhonest : ∀ act reply, m = .acted act reply → x.signer.Signs act reply) :
    (x.advance m rest).Coherent where
  path := hx.path.trans hpath
  honest act reply h := by
    obtain h | h := List.mem_append.mp h
    · exact hx.honest act reply h
    · exact hhonest act reply (List.mem_singleton.mp h).symm

namespace World

structure Invariant (scheme : Scheme) (first : Chain.State) (w : World) : Prop where
  coherent (x : Sending) : x ∈ w.sendings → x.Coherent
  numbered : Chain.Numbered scheme first w.chain (w.taken.map (·.2))
  own (i : Nat) : w.own i = (w.sendings[i]?.map (Sending.taken scheme)).getD []

variable {scheme : Scheme} {c : Chain.Settings} {first : Chain.State} {w : World}

theorem invariant_first : Invariant scheme first { chain := first } where
  coherent _ hx := nomatch hx
  numbered := Chain.numbered_start
  own _ := rfl

theorem Invariant.start (h : Invariant scheme first w) (signer : Signer) (chainId : UInt64)
    (d : Dispatch) : Invariant scheme first (w.step scheme c (.start signer chainId d)) where
  coherent x hx := by
    obtain hx | hx := List.mem_append.mp hx
    · exact h.coherent x hx
    · obtain rfl := List.mem_singleton.mp hx
      exact ⟨.here _, fun _ _ hm => nomatch hm⟩
  numbered := h.numbered
  own i := by
    refine (h.own i).trans ?_
    rw [step]
    by_cases hi : i < w.sendings.length
    · rw [List.getElem?_append_left hi]
    · rw [List.getElem?_append_right (Nat.le_of_not_lt hi),
        List.getElem?_eq_none (Nat.le_of_not_lt hi)]
      -- The new sending has the first free number, and nothing has happened in it.
      cases i - w.sendings.length with
      | zero => rfl
      | succ _ => rfl

/-- A change of the chain that does not touch the record, such as a scripted fault. -/
theorem Invariant.script (h : Invariant scheme first w) {chain : Chain.State}
    (hsame : Chain.SameRecord w.chain chain) : Invariant scheme first { w with chain } where
  coherent := h.coherent
  numbered := by simpa using h.numbered.step (.quiet hsame)
  own := h.own

/-- What a step of the sending with the number `i` adds to what is taken from each of them. -/
theorem own_advance (w : World) (chain : Chain.State) (sendings : List Sending) (i j : Nat)
    (t : Option SignedTransaction) :
    own { chain, sendings, taken := w.taken ++ t.toList.map (i, ·) } j =
      w.own j ++ if i = j then t.toList else [] := by
  rw [own, own, List.filter_append, List.map_append]
  congr 1
  by_cases hij : i = j
  · cases t <;> simp [hij]
  · cases t <;> simp [hij]

/-- A step of a sending, whatever it is, after which the record shows what was taken in it. -/
theorem Invariant.advance (h : Invariant scheme first w) {i : Nat} {x : Sending}
    (hx : w.sendings[i]? = some x) {m : Moment}
    {rest : Program Act.Reply (Except Failure Receipt)} {chain : Chain.State}
    (hpath : Program.Path x.rest [m] rest)
    (hhonest : ∀ act reply, m = .acted act reply → x.signer.Signs act reply)
    (heffect : Chain.Effect scheme w.chain chain (Chain.taken? scheme m)) :
    Invariant scheme first {
      chain
      sendings := w.sendings.set i (x.advance m rest)
      taken := w.taken ++ (Chain.taken? scheme m).toList.map (i, ·) } where
  coherent y hy := by
    obtain hy | rfl := List.mem_or_eq_of_mem_set hy
    · exact h.coherent y hy
    · exact (h.coherent x (List.mem_of_getElem? hx)).advance hpath hhonest
  numbered := by
    have hmap : (w.taken ++ (Chain.taken? scheme m).toList.map (i, ·)).map (·.2) =
        w.taken.map (·.2) ++ (Chain.taken? scheme m).toList := by
      rw [List.map_append, List.map_map]
      exact congrArg _ (List.map_id _)
    rw [hmap]
    exact h.numbered.step heffect
  own j := by
    rw [own_advance, h.own j]
    by_cases hij : i = j
    · subst hij
      have hlt := (List.getElem?_eq_some_iff.mp hx).1
      rw [if_pos rfl, List.getElem?_set_self hlt, hx]
      exact (Sending.taken_advance scheme x m rest).symm
    · rw [if_neg hij, List.append_nil, List.getElem?_set_ne hij]

theorem Invariant.turn (h : Invariant scheme first w) {i : Nat} {x : Sending}
    (hx : w.sendings[i]? = some x) : Invariant scheme first (w.turn scheme c i x) := by
  rw [World.turn]
  split
  · exact h
  · next event next hrest =>
    have hpath : Program.Path x.rest [.reported event] next := by
      rw [hrest]
      exact .report (.here next)
    simpa [Chain.taken?] using h.advance hx hpath (fun _ _ hm => nomatch hm) (.quiet ⟨rfl, rfl⟩)
  · next act next hrest =>
    have heffect := Chain.effect_reply scheme c x.signer act w.chain
    have hpath : Program.Path x.rest [.acted act (Chain.reply scheme c x.signer act w.chain).1]
        (next (Chain.reply scheme c x.signer act w.chain).1) := by
      rw [hrest]
      exact .act _ (.here _)
    simp only
    rw [heffect.drop_submitted]
    refine h.advance hx hpath ?_ heffect
    intro act' reply hm
    cases hm
    exact Chain.signs_reply scheme c x.signer act w.chain

theorem Invariant.step (h : Invariant scheme first w) (move : Move) :
    Invariant scheme first (w.step scheme c move) := by
  cases move with
  | start signer chainId d => exact h.start signer chainId d
  | turn i =>
    rw [World.step]
    split
    · next x hx => exact h.turn hx
    · exact h
  | rejectNext reason => exact h.script ⟨rfl, rfl⟩
  | loseNextReceipt reason => exact h.script ⟨rfl, rfl⟩
  | revertCalls receiver => exact h.script ⟨rfl, rfl⟩

theorem invariant_after (scheme : Scheme) (c : Chain.Settings) (first : Chain.State)
    (moves : List Move) : Invariant scheme first (after scheme c first moves) := by
  induction moves using List.reverseRecOn with
  | nil => exact invariant_first
  | append_singleton moves move ih =>
    rw [after, List.foldl_append]
    exact ih.step move

/-- A move starts a sending or leaves those that there are as they were started. -/
theorem origin_of_mem_step {move : Move} {x : Sending} (hx : x ∈ (w.step scheme c move).sendings) :
    x.origin = move ∨ ∃ y ∈ w.sendings, y.origin = x.origin := by
  cases move with
  | start signer chainId d =>
    obtain hx | hx := List.mem_append.mp hx
    · exact .inr ⟨x, hx, rfl⟩
    · obtain rfl := List.mem_singleton.mp hx
      exact .inl rfl
  | turn i =>
    rw [step] at hx
    split at hx
    · next y hy =>
      rw [World.turn] at hx
      split at hx
      · exact .inr ⟨x, hx, rfl⟩
      all_goals
        obtain hx | rfl := List.mem_or_eq_of_mem_set hx
        · exact .inr ⟨x, hx, rfl⟩
        · exact .inr ⟨y, List.mem_of_getElem? hy, rfl⟩
    · exact .inr ⟨x, hx, rfl⟩
  | rejectNext _ | loseNextReceipt _ | revertCalls _ => exact .inr ⟨x, hx, rfl⟩

theorem origin_mem_of_mem_after {moves : List Move} {x : Sending}
    (hx : x ∈ (after scheme c first moves).sendings) : x.origin ∈ moves := by
  induction moves using List.reverseRecOn generalizing x with
  | nil => cases hx
  | append_singleton moves move ih =>
    rw [after, List.foldl_append] at hx
    obtain hmove | ⟨y, hy, horigin⟩ := origin_of_mem_step hx
    · exact List.mem_append_right _ (List.mem_singleton.mpr hmove)
    · rw [← horigin]
      exact List.mem_append_left _ (ih hy)

end World

end Sandwich
