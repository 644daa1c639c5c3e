import Sandwich.Program

/-! The ways in which a program can go. Any reply can follow any action, so that
a program has as many ways to go as its surroundings have ways to behave, and
every run in given surroundings is one of them. A program put together out of
two goes through the first and then through the second. -/

namespace Sandwich.Program

variable {Action : Type} {Reply : Action → Type} {α β σ : Type}

/-- The program `p` can go through `ms` and then be left with `q`. -/
inductive Path : Program Reply α → List (Moment Reply) → Program Reply α → Prop
  | here (p : Program Reply α) : Path p [] p
  | act {action : Action} {next : Reply action → Program Reply α} {ms : List (Moment Reply)}
      {q : Program Reply α} (reply : Reply action) (h : Path (next reply) ms q) :
      Path (act action next) (.acted action reply :: ms) q
  | report {event : Event} {next : Program Reply α} {ms : List (Moment Reply)}
      {q : Program Reply α} (h : Path next ms q) :
      Path (report event next) (.reported event :: ms) q

/-- The program can go through `ms` and end with `a`. -/
def Runs (p : Program Reply α) (ms : List (Moment Reply)) (a : α) : Prop := Path p ms (done a)

theorem Path.trans {p q r : Program Reply α} {ms ns : List (Moment Reply)} (h : Path p ms q)
    (h' : Path q ns r) : Path p (ms ++ ns) r := by
  induction h with
  | here _ => exact h'
  | act reply _ ih => exact .act reply (ih h')
  | report _ ih => exact .report (ih h')

@[simp] theorem runs_done_iff {a b : α} {ms : List (Moment Reply)} :
    Runs (done a) ms b ↔ ms = [] ∧ a = b := by
  constructor
  · rintro ⟨⟩
    exact ⟨rfl, rfl⟩
  · rintro ⟨rfl, rfl⟩
    exact .here _

@[simp] theorem runs_act_iff {action : Action} {next : Reply action → Program Reply α}
    {ms : List (Moment Reply)} {a : α} :
    Runs (act action next) ms a ↔
      ∃ reply rest, ms = .acted action reply :: rest ∧ Runs (next reply) rest a := by
  constructor
  · rintro ⟨⟩
    exact ⟨_, _, rfl, ‹_›⟩
  · rintro ⟨reply, rest, rfl, h⟩
    exact .act reply h

@[simp] theorem runs_report_iff {event : Event} {next : Program Reply α}
    {ms : List (Moment Reply)} {a : α} :
    Runs (report event next) ms a ↔ ∃ rest, ms = .reported event :: rest ∧ Runs next rest a := by
  constructor
  · rintro ⟨⟩
    exact ⟨_, rfl, ‹_›⟩
  · rintro ⟨rest, rfl, h⟩
    exact .report h

theorem runs_bind_iff {p : Program Reply α} {f : α → Program Reply β}
    {ms : List (Moment Reply)} {b : β} :
    Runs (p.bind f) ms b ↔ ∃ ms₁ a ms₂, Runs p ms₁ a ∧ Runs (f a) ms₂ b ∧ ms = ms₁ ++ ms₂ := by
  induction p generalizing ms with
  | done a =>
    rw [bind]
    constructor
    · intro h
      exact ⟨[], a, ms, .here _, h, rfl⟩
    · rintro ⟨ms₁, a', ms₂, ha, h, rfl⟩
      obtain ⟨rfl, rfl⟩ := runs_done_iff.mp ha
      exact h
  | act action next ih =>
    rw [bind, runs_act_iff]
    constructor
    · rintro ⟨reply, rest, rfl, h⟩
      obtain ⟨ms₁, a, ms₂, ha, hb, rfl⟩ := (ih reply).mp h
      exact ⟨.acted action reply :: ms₁, a, ms₂, .act reply ha, hb, rfl⟩
    · rintro ⟨ms₁, a, ms₂, ha, hb, rfl⟩
      obtain ⟨reply, rest, rfl, hrest⟩ := runs_act_iff.mp ha
      exact ⟨reply, rest ++ ms₂, rfl, (ih reply).mpr ⟨rest, a, ms₂, hrest, hb, rfl⟩⟩
  | report event next ih =>
    rw [bind, runs_report_iff]
    constructor
    · rintro ⟨rest, rfl, h⟩
      obtain ⟨ms₁, a, ms₂, ha, hb, rfl⟩ := ih.mp h
      exact ⟨.reported event :: ms₁, a, ms₂, .report ha, hb, rfl⟩
    · rintro ⟨ms₁, a, ms₂, ha, hb, rfl⟩
      obtain ⟨rest, rfl, hrest⟩ := runs_report_iff.mp ha
      exact ⟨rest ++ ms₂, rfl, ih.mpr ⟨rest, a, ms₂, hrest, hb, rfl⟩⟩

theorem runs_run (surroundings : (action : Action) → σ → Reply action × σ)
    (p : Program Reply α) (s : σ) :
    Runs p (p.run surroundings s).moments (p.run surroundings s).result := by
  induction p generalizing s with
  | done a => exact .here _
  | act action next ih => exact .act _ (ih _ _)
  | report event next ih => exact .report (ih s)

/-- A program put together out of two runs through the first and then, in what that leaves,
through the second. -/
theorem run_bind (surroundings : (action : Action) → σ → Reply action × σ)
    (p : Program Reply α) (f : α → Program Reply β) (s : σ) :
    (p.bind f).run surroundings s =
      let o := p.run surroundings s
      let o' := (f o.result).run surroundings o.state
      ⟨o.moments ++ o'.moments, o'.result, o'.state⟩ := by
  induction p generalizing s with
  | done a => rfl
  | act action next ih => simp only [bind, run, ih, List.cons_append]
  | report event next ih => simp only [bind, run, ih, List.cons_append]

theorem run_map (surroundings : (action : Action) → σ → Reply action × σ) (f : α → β)
    (p : Program Reply α) (s : σ) :
    (f <$> p).run surroundings s =
      let o := p.run surroundings s
      ⟨o.moments, f o.result, o.state⟩ := by
  refine (run_bind surroundings p (done ∘ f) s).trans ?_
  simp only [Function.comp, run, List.append_nil]

theorem bind_done (p : Program Reply α) : p.bind done = p := by
  induction p with
  | done a => rfl
  | act action next ih => exact congrArg (act action) (funext ih)
  | report event next ih => exact congrArg (report event) ih

theorem bind_bind {γ : Type} (p : Program Reply α) (f : α → Program Reply β)
    (g : β → Program Reply γ) : (p.bind f).bind g = p.bind fun a => (f a).bind g := by
  induction p with
  | done a => rfl
  | act action next ih => exact congrArg (act action) (funext ih)
  | report event next ih => exact congrArg (report event) ih

instance : LawfulMonad (Program Reply) := LawfulMonad.mk' _ bind_done (fun _ _ => rfl) bind_bind

/-- Where every action has a good reply, every program can be followed to an end. -/
theorem exists_runs {Good : (action : Action) → Reply action → Prop}
    (hgood : ∀ action, ∃ reply, Good action reply) (p : Program Reply α) :
    ∃ ms a, Runs p ms a ∧ ∀ action reply, .acted action reply ∈ ms → Good action reply := by
  induction p with
  | done a => exact ⟨[], a, .here _, fun _ _ h => nomatch h⟩
  | act action next ih =>
    obtain ⟨reply, hreply⟩ := hgood action
    obtain ⟨ms, a, hruns, hms⟩ := ih reply
    refine ⟨.acted action reply :: ms, a, .act reply hruns, ?_⟩
    intro action' reply' h
    obtain h | h := List.mem_cons.mp h
    · cases h
      exact hreply
    · exact hms action' reply' h
  | report event next ih =>
    obtain ⟨ms, a, hruns, hms⟩ := ih
    refine ⟨.reported event :: ms, a, .report hruns, ?_⟩
    intro action' reply' h
    obtain h | h := List.mem_cons.mp h
    · cases h
    · exact hms action' reply' h

/-! ### Calls -/

/-- An action together with the reply to it. -/
abbrev Call (Reply : Action → Type) : Type := (action : Action) × Reply action

def calls : List (Moment Reply) → List (Call Reply)
  | [] => []
  | .acted action reply :: ms => ⟨action, reply⟩ :: calls ms
  | .reported _ :: ms => calls ms

@[simp] theorem calls_append (ms ns : List (Moment Reply)) :
    calls (ms ++ ns) = calls ms ++ calls ns := by
  induction ms with
  | nil => rfl
  | cons m ms ih => cases m <;> simp [calls, ih]

@[simp] theorem calls_map_reported (es : List Event) :
    calls (es.map .reported : List (Moment Reply)) = [] := by
  induction es with
  | nil => rfl
  | cons event es ih => exact ih

theorem Outcome.actions_eq (o : Outcome Reply σ α) : o.actions = (calls o.moments).map (·.1) := by
  unfold Outcome.actions
  induction o.moments with
  | nil => rfl
  | cons m ms ih => cases m <;> simp [calls, ih]

theorem Outcome.mem_actions_iff {o : Outcome Reply σ α} {action : Action} :
    action ∈ o.actions ↔ ∃ reply, .acted action reply ∈ o.moments := by
  rw [Outcome.actions, List.mem_filterMap]
  constructor
  · rintro ⟨m, hm, h⟩
    cases m with
    | acted action' reply =>
      cases h
      exact ⟨reply, hm⟩
    | reported event => cases h
  · rintro ⟨reply, h⟩
    exact ⟨_, h, rfl⟩

/-! ### Events -/

def events : List (Moment Reply) → List Event
  | [] => []
  | .acted _ _ :: ms => events ms
  | .reported event :: ms => event :: events ms

@[simp] theorem events_append (ms ns : List (Moment Reply)) :
    events (ms ++ ns) = events ms ++ events ns := by
  induction ms with
  | nil => rfl
  | cons m ms ih => cases m <;> simp [events, ih]

@[simp] theorem events_map_reported (es : List Event) :
    events (es.map .reported : List (Moment Reply)) = es := by
  induction es with
  | nil => rfl
  | cons event es ih => exact congrArg (event :: ·) ih

theorem mem_events_iff {event : Event} {ms : List (Moment Reply)} :
    event ∈ events ms ↔ .reported event ∈ ms := by
  induction ms with
  | nil => simp [events]
  | cons m ms ih => cases m <;> simp [events, ih]

theorem Outcome.events_eq (o : Outcome Reply σ α) : o.events = Program.events o.moments := by
  unfold Outcome.events
  induction o.moments with
  | nil => rfl
  | cons m ms ih => cases m <;> simp [Program.events, ih]

/-! ### Actions that programs carry out -/

variable {Action' : Type} {Reply' : Action' → Type}
  {carryOut : (action : Action) → Program Reply' (Reply action)}

/-- `ns` is what happens when each action of `ms` is carried out by its program. -/
inductive Expands (carryOut : (action : Action) → Program Reply' (Reply action)) :
    List (Moment Reply) → List (Moment Reply') → Prop
  | nil : Expands carryOut [] []
  | acted {action : Action} {reply : Reply action} {block ns : List (Moment Reply')}
      {ms : List (Moment Reply)} (hblock : Runs (carryOut action) block reply)
      (h : Expands carryOut ms ns) : Expands carryOut (.acted action reply :: ms) (block ++ ns)
  | reported {event : Event} {ms : List (Moment Reply)} {ns : List (Moment Reply')}
      (h : Expands carryOut ms ns) :
      Expands carryOut (.reported event :: ms) (.reported event :: ns)

/-- What the expanded program does, the program does with each action carried out. -/
theorem exists_expands_of_runs {p : Program Reply α} {ns : List (Moment Reply')} {a : α}
    (h : Runs (p.expand carryOut) ns a) : ∃ ms, Runs p ms a ∧ Expands carryOut ms ns := by
  induction p generalizing ns with
  | done b =>
    obtain ⟨rfl, rfl⟩ := runs_done_iff.mp h
    exact ⟨[], .here _, .nil⟩
  | act action next ih =>
    obtain ⟨block, reply, ns, hblock, hrest, rfl⟩ := runs_bind_iff.mp h
    obtain ⟨ms, hruns, hms⟩ := ih reply hrest
    exact ⟨.acted action reply :: ms, .act reply hruns, .acted hblock hms⟩
  | report event next ih =>
    obtain ⟨ns, rfl, hrest⟩ := runs_report_iff.mp h
    obtain ⟨ms, hruns, hms⟩ := ih hrest
    exact ⟨.reported event :: ms, .report hruns, .reported hms⟩

theorem Expands.exists_append {ms₁ ms₂ : List (Moment Reply)} {ns : List (Moment Reply')}
    (h : Expands carryOut (ms₁ ++ ms₂) ns) :
    ∃ ns₁ ns₂, ns = ns₁ ++ ns₂ ∧ Expands carryOut ms₁ ns₁ ∧ Expands carryOut ms₂ ns₂ := by
  induction ms₁ generalizing ns with
  | nil => exact ⟨[], ns, rfl, .nil, h⟩
  | cons m ms₁ ih =>
    cases h with
    | acted hblock h =>
      obtain ⟨ns₁, ns₂, rfl, h₁, h₂⟩ := ih h
      exact ⟨_, ns₂, (List.append_assoc _ _ _).symm, .acted hblock h₁, h₂⟩
    | reported h =>
      obtain ⟨ns₁, ns₂, rfl, h₁, h₂⟩ := ih h
      exact ⟨_ :: ns₁, ns₂, rfl, .reported h₁, h₂⟩

/-- What happens belongs to one of the actions, or is a report. -/
theorem Expands.of_mem {ms : List (Moment Reply)} {ns : List (Moment Reply')}
    (h : Expands carryOut ms ns) {n : Moment Reply'} (hn : n ∈ ns) :
    (∃ event, n = .reported event) ∨ ∃ action reply block, .acted action reply ∈ ms ∧
      Runs (carryOut action) block reply ∧ n ∈ block := by
  induction h with
  | nil => cases hn
  | @acted action reply block _ _ hblock _ ih =>
    obtain hn | hn := List.mem_append.mp hn
    · exact .inr ⟨action, reply, block, List.mem_cons_self, hblock, hn⟩
    · refine (ih hn).imp_right ?_
      rintro ⟨action', reply', block', hmem, hrest⟩
      exact ⟨action', reply', block', List.mem_cons_of_mem _ hmem, hrest⟩
  | reported _ ih =>
    obtain rfl | hn := List.mem_cons.mp hn
    · exact .inl ⟨_, rfl⟩
    · refine (ih hn).imp_right ?_
      rintro ⟨action', reply', block', hmem, hrest⟩
      exact ⟨action', reply', block', List.mem_cons_of_mem _ hmem, hrest⟩

end Sandwich.Program
