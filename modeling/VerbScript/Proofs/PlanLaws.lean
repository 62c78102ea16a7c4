import VerbScript.Machine.Plan

/-!
# Laws of plans

Binding of plans is associative (`Plan.bind_assoc`), so evaluation may be regrouped freely, and
replaying a plan is following it from where the log ends:

* `Plan.Leaves p log rest` — after the answers of `log`, what is left of `p` is `rest`. The relation
  speaks of every longer log, so it survives each re-execution from the beginning.
* `Plan.Leaves.answer` — one more answer moves the rest one request forward. This is the only place
  where the position of an answer in the log matters.

`Plan.Every` states a property of all requests a plan can ask and of all faults it can fail with,
whatever is answered. It is proved of plans by `Plan.Every.bind` and read off a replay by
`Plan.Every.of_suspended` and `Plan.Every.of_failed`. `Plan.Gives` states a property of all results,
and `Plan.Gives.bind_congr` uses it to replace what follows.
-/

namespace VerbScript

namespace Plan

variable {α β γ : Type}

/-! ### The monad -/

@[simp] theorem pure_eq (a : α) : (pure a : Plan α) = done a := rfl

@[simp] theorem bind_eq (p : Plan α) (f : α → Plan β) : (p >>= f) = p.bind f := rfl

@[simp] theorem done_bind (a : α) (f : α → Plan β) : (done a).bind f = f a := rfl

@[simp] theorem ask_bind (r : Request) (k : Value → Plan α) (f : α → Plan β) :
    (ask r k).bind f = ask r fun v => (k v).bind f := rfl

/-- Plans in a row may be regrouped. The induction is on the first plan: where it asks something the
two sides ask the same, and they agree behind every answer by the induction hypothesis. -/
theorem bind_assoc (p : Plan α) (f : α → Plan β) (g : β → Plan γ) :
    (p.bind f).bind g = p.bind fun a => (f a).bind g := by
  induction p with
  | done a => rfl
  | fail fault => rfl
  | ask r k ih =>
    rw [ask_bind, ask_bind, ask_bind]
    -- both sides ask `r`; what is left are the continuations, answer by answer
    congr 1
    funext v
    exact ih v

/-- Handing the result on is no step of its own. With `done_bind` and `bind_assoc` this makes plans
a lawful monad, so that they may be rearranged like any other program. -/
theorem bind_done (p : Plan α) : p.bind done = p := by
  induction p with
  | done a => rfl
  | fail fault => rfl
  | ask r k ih =>
    rw [ask_bind]
    congr 1
    funext v
    exact ih v

/-! ### What a log leaves of a plan -/

/-- After the answers of `log`, what is left of `p` is `rest`. This is said of every longer log as
well: a plan is replayed from its beginning with each new answer, and what has been established for
the log so far has to hold in those later replays. -/
def Leaves (p : Plan α) (log : List Value) (rest : Plan α) : Prop :=
  ∀ more, p.replay (log ++ more) = rest.replay more

/-- Before the first answer the whole plan is left. -/
theorem Leaves.nil (p : Plan α) : p.Leaves [] p := fun _ => rfl

/-- How far a plan gets with the answers of a log is how far the rest gets with none. -/
theorem Leaves.replay {p rest : Plan α} {log : List Value} (h : p.Leaves log rest) :
    p.replay log = rest.replay [] := by
  have h' := h []
  rwa [List.append_nil] at h'

/-- **One more answer.** A log that ends at the request `r` and is extended by the answer to it
leaves what `r` is followed by. -/
theorem Leaves.answer {p : Plan α} {log : List Value} {r : Request} {k : Value → Plan α}
    (h : p.Leaves log (ask r k)) (v : Value) : p.Leaves (log ++ [v]) (k v) := by
  intro more
  -- the new answer is the first one that the rest reads
  rw [List.append_assoc, h]
  rfl

/-- A plan that the log carries to its end does not look at any further answers. -/
theorem Leaves.replay_append {p : Plan α} {log : List Value} {a : α} (h : p.Leaves log (done a))
    (more : List Value) : p.replay (log ++ more) = .done a := h more

/-- A replay of two plans in a row that is through has answered the first from the beginning of the
log and the second from the rest. -/
theorem exists_leaves_of_bind_done {p : Plan α} {f : α → Plan β} {log : List Value} {b : β}
    (h : (p.bind f).replay log = .done b) :
    ∃ log₁ log₂ a, log = log₁ ++ log₂ ∧ p.Leaves log₁ (done a) ∧ (f a).replay log₂ = .done b := by
  induction p generalizing log with
  -- the first plan needs no answer: the log is the second one's
  | done a => exact ⟨[], log, a, rfl, .nil _, h⟩
  | fail fault => cases h
  -- the first answer of the log is the first plan's, the rest is split behind it
  | ask r k ih =>
    cases log with
    | nil => cases h
    | cons v log =>
      obtain ⟨log₁, log₂, a, rfl, hleaves, hrest⟩ := ih v h
      exact ⟨v :: log₁, log₂, a, rfl, fun more => hleaves more, hrest⟩

/-! ### Properties of all requests and faults -/

/-- Every request `p` can ask satisfies `asked`, and every fault it can fail with satisfies
`failed`, whatever is answered on the way. Nothing is said of the results. -/
def Every (asked : Request → Prop) (failed : Fault → Prop) : Plan α → Prop
  | done _ => True
  | fail fault => failed fault
  | ask r k => asked r ∧ ∀ v, (k v).Every asked failed

variable {asked : Request → Prop} {failed : Fault → Prop}

/-- What holds of the first plan and of every plan that may follow it holds of the two in a row. -/
theorem Every.bind {p : Plan α} {f : α → Plan β} (hp : p.Every asked failed)
    (hf : ∀ a, (f a).Every asked failed) : (p.bind f).Every asked failed := by
  induction p with
  | done a => exact hf a
  | fail fault => exact hp
  | ask r k ih => exact ⟨hp.1, fun v => ih v (hp.2 v)⟩

/-- The request that a replay stops at is one that the plan can ask. It does not matter which
answers have led there. -/
theorem Every.of_suspended {p : Plan α} {log : List Value} {r : Request}
    (hp : p.Every asked failed) (h : p.replay log = .suspended r) : asked r := by
  induction p generalizing log with
  | done a => cases h
  | fail fault => cases h
  | ask r' k ih =>
    -- at the end of the log the plan stops here; with an answer it goes on behind it
    cases log with
    | nil =>
      cases h
      exact hp.1
    | cons v log => exact ih v (hp.2 v) h

/-- The fault that a replay ends in is one that the plan can fail with. The answers decide which of
them it is, if any. -/
theorem Every.of_failed {p : Plan α} {log : List Value} {fault : Fault}
    (hp : p.Every asked failed) (h : p.replay log = .failed fault) : failed fault := by
  induction p generalizing log with
  | done a => cases h
  | fail fault' =>
    cases h
    exact hp
  | ask r k ih =>
    cases log with
    | nil => cases h
    | cons v log => exact ih v (hp.2 v) h

/-! ### Properties of all results -/

/-- Whatever is answered, every result of `p` satisfies `good`. A plan that fails or that is never
answered has no result, and of these nothing is asked. -/
def Gives (good : α → Prop) : Plan α → Prop
  | done a => good a
  | fail _ => True
  | ask _ k => ∀ v, (k v).Gives good

variable {good : α → Prop} {good' : β → Prop}

/-- The weakest property of results, for plans whose results do not matter to what follows. -/
theorem gives_true (p : Plan α) : p.Gives fun _ => True := by
  induction p with
  | done a => trivial
  | fail fault => trivial
  | ask r k ih => exact ih

/-- The second plan may rely on what is known of the results of the first. -/
theorem Gives.bind {p : Plan α} {f : α → Plan β} (hp : p.Gives good)
    (hf : ∀ a, good a → (f a).Gives good') : (p.bind f).Gives good' := by
  induction p with
  | done a => exact hf a hp
  | fail fault => trivial
  | ask r k ih => exact fun v => ih v (hp v)

/-- Plans that agree on the results of `p` may replace each other behind it. They need not agree on
anything that `p` cannot give. -/
theorem Gives.bind_congr {p : Plan α} {f g : α → Plan β} (hp : p.Gives good)
    (h : ∀ a, good a → f a = g a) : p.bind f = p.bind g := by
  induction p with
  | done a => exact h a hp
  | fail fault => rfl
  | ask r k ih =>
    rw [ask_bind, ask_bind]
    -- `p` asks the same in front of both
    congr 1
    funext v
    exact ih v (hp v)

end Plan

end VerbScript
