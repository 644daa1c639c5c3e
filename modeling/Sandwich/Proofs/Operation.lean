import Sandwich.Operation
import Sandwich.Proofs.Except
import Sandwich.Proofs.Program

/-! The ways in which an operation can go. An operation put together out of two
either fails in the first or goes on with the second, and each of the steps that
operations are made of is one question, one request or one report. -/

namespace Sandwich.Operation

open Program

variable {α β : Type}

abbrev Moment : Type := Program.Moment Act.Reply

abbrev asked (q : Query) (reply : Except ClientError q.Answer) : Moment := .acted (.query q) reply

abbrev signed (request : Transaction.Request) (reply : Except SigningError Bytes) : Moment :=
  .acted (.sign request) reply

/-- The operation can go through `ms` and end in `result`. -/
def Runs (op : Operation α) (ms : List Moment) (result : Except Failure α) : Prop :=
  Program.Runs op.run ms result

theorem runs_pure_iff {a : α} {ms : List Moment} {result : Except Failure α} :
    Runs (pure a) ms result ↔ ms = [] ∧ result = .ok a := by
  rw [Runs, ExceptT.run_pure, eq_comm (a := result)]
  exact runs_done_iff

theorem runs_throw_iff {failure : Failure} {ms : List Moment} {result : Except Failure α} :
    Runs (throw failure) ms result ↔ ms = [] ∧ result = .error failure := by
  rw [Runs, ExceptT.run_throw, eq_comm (a := result)]
  exact runs_done_iff

theorem runs_bind_iff {x : Operation α} {f : α → Operation β} {ms : List Moment}
    {result : Except Failure β} :
    Runs (x >>= f) ms result ↔
      (∃ failure, Runs x ms (.error failure) ∧ result = .error failure) ∨
        ∃ ms₁ a ms₂, Runs x ms₁ (.ok a) ∧ Runs (f a) ms₂ result ∧ ms = ms₁ ++ ms₂ := by
  rw [Runs, ExceptT.run_bind]
  refine Program.runs_bind_iff.trans ⟨?_, ?_⟩
  · rintro ⟨ms₁, (failure | a), ms₂, hx, hf, rfl⟩
    · obtain ⟨rfl, rfl⟩ := runs_done_iff.mp hf
      exact .inl ⟨failure, by rwa [List.append_nil], rfl⟩
    · exact .inr ⟨ms₁, a, ms₂, hx, hf, rfl⟩
  · rintro (⟨failure, hx, rfl⟩ | ⟨ms₁, a, ms₂, hx, hf, rfl⟩)
    · exact ⟨ms, .error failure, [], hx, .here _, (List.append_nil ms).symm⟩
    · exact ⟨ms₁, .ok a, ms₂, hx, hf, rfl⟩

/-! ### Single steps -/

theorem runs_act_iff {act : Act} {f : act.Reply → Except Failure α} {ms : List Moment}
    {result : Except Failure α} :
    Runs (ExceptT.mk (Program.act act fun reply => .done (f reply))) ms result ↔
      ∃ reply, ms = [.acted act reply] ∧ f reply = result := by
  rw [Runs, ExceptT.run_mk, Program.runs_act_iff]
  refine exists_congr fun reply => ?_
  constructor
  · rintro ⟨rest, rfl, h⟩
    obtain ⟨rfl, hresult⟩ := runs_done_iff.mp h
    exact ⟨rfl, hresult⟩
  · rintro ⟨rfl, h⟩
    exact ⟨[], rfl, runs_done_iff.mpr ⟨rfl, h⟩⟩

theorem runs_query_ok_iff {q : Query} {onError : ClientError → Failure} {ms : List Moment}
    {answer : q.Answer} :
    Runs (query q onError) ms (.ok answer) ↔ ms = [asked q (.ok answer)] := by
  rw [query, runs_act_iff]
  constructor
  · rintro ⟨reply, rfl, h⟩
    rw [Except.mapError_eq_ok_iff.mp h]
  · rintro rfl
    exact ⟨.ok answer, rfl, rfl⟩

theorem runs_query_error_iff {q : Query} {onError : ClientError → Failure} {ms : List Moment}
    {failure : Failure} :
    Runs (query q onError) ms (.error failure) ↔
      ∃ e, ms = [asked q (.error e)] ∧ failure = onError e := by
  rw [query, runs_act_iff]
  constructor
  · rintro ⟨reply, rfl, h⟩
    obtain ⟨e, rfl, rfl⟩ := Except.mapError_eq_error_iff.mp h
    exact ⟨e, rfl, rfl⟩
  · rintro ⟨e, rfl, rfl⟩
    exact ⟨.error e, rfl, rfl⟩

/-- Where one act is followed by more, its reply decides whether the operation goes on. -/
theorem runs_act_bind_iff {act : Act} {f : act.Reply → Except Failure α} {g : α → Operation β}
    {ms : List Moment} {result : Except Failure β} :
    Runs (ExceptT.mk (Program.act act fun reply => .done (f reply)) >>= g) ms result ↔
      ∃ reply rest, ms = .acted act reply :: rest ∧
        match f reply with
        | .ok a => Runs (g a) rest result
        | .error failure => rest = [] ∧ result = .error failure := by
  rw [Runs, ExceptT.run_bind]
  refine Program.runs_act_iff.trans (exists_congr fun reply => exists_congr fun rest => ?_)
  refine and_congr_right fun _ => ?_
  simp only [Program.bind]
  cases f reply with
  | ok a => exact Iff.rfl
  | error failure =>
    refine runs_done_iff.trans (and_congr_right fun _ => ?_)
    exact eq_comm

theorem runs_query_bind_iff {q : Query} {onError : ClientError → Failure}
    {g : q.Answer → Operation α} {ms : List Moment} {result : Except Failure α} :
    Runs (query q onError >>= g) ms result ↔
      (∃ e, ms = [asked q (.error e)] ∧ result = .error (onError e)) ∨
        ∃ answer rest, ms = asked q (.ok answer) :: rest ∧ Runs (g answer) rest result := by
  rw [query, runs_act_bind_iff]
  constructor
  · rintro ⟨e | answer, rest, rfl, h⟩
    · obtain ⟨rfl, rfl⟩ := h
      exact .inl ⟨e, rfl, rfl⟩
    · exact .inr ⟨answer, rest, rfl, h⟩
  · rintro (⟨e, rfl, rfl⟩ | ⟨answer, rest, rfl, h⟩)
    · exact ⟨.error e, [], rfl, rfl, rfl⟩
    · exact ⟨.ok answer, rest, rfl, h⟩

theorem runs_sign_bind_iff {request : Transaction.Request} {g : Bytes → Operation α}
    {ms : List Moment} {result : Except Failure α} :
    Runs (sign request >>= g) ms result ↔
      (∃ e, ms = [signed request (.error e)] ∧ result = .error (.signing e)) ∨
        ∃ raw rest, ms = signed request (.ok raw) :: rest ∧ Runs (g raw) rest result := by
  rw [sign, runs_act_bind_iff]
  constructor
  · rintro ⟨e | raw, rest, rfl, h⟩
    · obtain ⟨rfl, rfl⟩ := h
      exact .inl ⟨e, rfl, rfl⟩
    · exact .inr ⟨raw, rest, rfl, h⟩
  · rintro (⟨e, rfl, rfl⟩ | ⟨raw, rest, rfl, h⟩)
    · exact ⟨.error e, [], rfl, rfl, rfl⟩
    · exact ⟨.ok raw, rest, rfl, h⟩

/-- A report takes one moment and cannot fail. -/
theorem runs_report_bind_iff {event : Event} {op : Operation α} {ms : List Moment}
    {result : Except Failure α} :
    Runs (report event >>= fun _ => op) ms result ↔
      ∃ rest, ms = .reported event :: rest ∧ Runs op rest result := by
  change Program.Runs (.report event op.run) ms result ↔ _
  exact runs_report_iff

/-! ### Runs -/

/-- Where an operation is followed by more, its failure, made another one, ends it. -/
theorem run_adapt_bind {σ : Type} (surroundings : (act : Act) → σ → act.Reply × σ)
    (f : Failure → Failure) (op : Operation α) (g : α → Operation β) (s : σ) :
    (ExceptT.adapt f op >>= g).run.run surroundings s =
      let o := op.run.run surroundings s
      match o.result with
      | .error failure => ⟨o.moments, .error (f failure), o.state⟩
      | .ok a =>
        let o' := (g a).run.run surroundings o.state
        ⟨o.moments ++ o'.moments, o'.result, o'.state⟩ := by
  have hbind : (ExceptT.adapt f op >>= g).run = op.run.bind fun
      | .error failure => .done (.error (f failure))
      | .ok a => (g a).run := by
    refine (bind_bind op.run _ _).trans (congrArg op.run.bind (funext fun result => ?_))
    cases result <;> rfl
  rw [hbind, run_bind]
  cases h : (op.run.run surroundings s).result with
  | error failure => simp only [h, run, List.append_nil]
  | ok a => simp only [h]

end Sandwich.Operation
