import Mathlib.Logic.Relation
import Mathlib.Order.GameAdd
import SchemaMigration.Proofs.Trace

/-!
# Two dialogues at the same time

Two programs talk to one database, each in a session of its own, and take turns in any order. A turn
is one action: a statement with its reply, a line of the log, a cancellation, or the end of the
session.

* `Dialogue.Moves`, `Dialogue.Leads`: one action of a dialogue, and any number of them.
* `Dialogue.Leads.invariant`: what the statements of a dialogue keep is kept by its actions.
* `Tandem.Turn`: one action of one of two dialogues whose sessions share a state.
* `Tandem.wellFounded_turn`, `Tandem.stuck_iff`: turns come to an end, and then both are done.
* `Session.along`: a session on states that others have brought about.
* `Tandem.along_of_turns`: if the second dialogue leaves the shared state alone, then the first goes
  its way as if it were alone, and the second finds states on that way, in order.
-/

namespace SchemaMigration

open Relation (ReflTransGen)

/-! ## One dialogue -/

namespace Dialogue

variable {σ α : Type} {session : Session σ} {x y z : Dialogue α × σ}

/-- One action of a dialogue: what is left of it, and the state that the session is in then. -/
inductive Moves (session : Session σ) : Dialogue α × σ → Dialogue α × σ → Prop where
  | log (line : Log.Line) (next : Dialogue α) (state : σ) :
      Moves session (.log line next, state) (next, state)
  | send (statement : Statement) (next : Reply → Dialogue α) (state : σ) :
      Moves session (.send statement next, state)
        (next (session.send state statement).1, (session.send state statement).2)
  | cancel (next : Dialogue α) (state : σ) :
      Moves session (.cancel next, state) (next, session.cancel state)
  | close (next : Option SessionError → Dialogue α) (state : σ) :
      Moves session (.close next, state) (next (session.close state).1, (session.close state).2)

/-- Any number of actions. -/
abbrev Leads (session : Session σ) : Dialogue α × σ → Dialogue α × σ → Prop :=
  ReflTransGen (Moves session)

/-- An action is a part of the course of the dialogue. -/
theorem Moves.play (h : Moves session x y) :
    (play session x.1 x.2).result = (play session y.1 y.2).result ∧
      (play session x.1 x.2).state = (play session y.1 y.2).state := by
  cases h <;> exact ⟨rfl, rfl⟩

theorem Moves.suffix (h : Moves session x y) :
    exchanges session y.1 y.2 <:+ exchanges session x.1 x.2 := by
  cases h with
  | send => exact List.suffix_cons _ _
  | _ => exact List.suffix_rfl

theorem Leads.play (h : Leads session x y) :
    (play session x.1 x.2).result = (play session y.1 y.2).result ∧
      (play session x.1 x.2).state = (play session y.1 y.2).state := by
  induction h with
  | refl => exact ⟨rfl, rfl⟩
  | tail _ move ih => exact ⟨ih.1.trans move.play.1, ih.2.trans move.play.2⟩

/-- A dialogue that is done has come to what its course comes to. -/
theorem Leads.of_done (h : Leads session x y) {result : α} (hdone : y.1 = .done result) :
    (Dialogue.play session x.1 x.2).result = result ∧
      (Dialogue.play session x.1 x.2).state = y.2 := by
  have hplay := h.play
  rw [hdone] at hplay
  exact hplay

theorem Leads.suffix (h : Leads session x y) :
    exchanges session y.1 y.2 <:+ exchanges session x.1 x.2 := by
  induction h with
  | refl => exact List.suffix_rfl
  | tail _ move ih => exact move.suffix.trans ih

/-- What holds at the start, and is not destroyed by the exchanges from there on, holds after any
number of actions. -/
theorem Leads.invariant {P : σ → Prop} (h : Leads session x y)
    (hsent : ∀ e ∈ exchanges session x.1 x.2, ∀ state,
      session.send state e.statement = (e.reply, e.after) → P state → P e.after)
    (hcancel : ∀ state, P state → P (session.cancel state))
    (hclose : ∀ state, P state → P (session.close state).2) (hx : P x.2) : P y.2 := by
  -- on the actions; what is sent on the way is sent in the course from `x` as well
  induction h with
  | refl => exact hx
  | @tail y z hlead move ih =>
      cases move with
      | log => exact ih
      | send statement next state =>
          exact hsent _ (Leads.suffix hlead |>.subset List.mem_cons_self) state rfl ih
      | cancel next state => exact hcancel state ih
      | close next state => exact hclose state ih

/-- What may be left of a dialogue after one action. -/
inductive Follows : Dialogue α → Dialogue α → Prop where
  | log (line : Log.Line) (next : Dialogue α) : Follows next (.log line next)
  | send (statement : Statement) (next : Reply → Dialogue α) (reply : Reply) :
      Follows (next reply) (.send statement next)
  | cancel (next : Dialogue α) : Follows next (.cancel next)
  | close (next : Option SessionError → Dialogue α) (error : Option SessionError) :
      Follows (next error) (.close next)

/-- A dialogue is finite, whatever it is answered. -/
theorem wellFounded_follows : WellFounded (@Follows α) := by
  refine ⟨fun d => ?_⟩
  -- on the dialogue, which has a continuation for every reply
  induction d with
  | done result => exact ⟨_, fun _ h => nomatch h⟩
  | log line next ih =>
      refine ⟨_, fun d h => ?_⟩
      cases h
      exact ih
  | send statement next ih =>
      refine ⟨_, fun d h => ?_⟩
      cases h with
      | send _ _ reply => exact ih reply
  | cancel next ih =>
      refine ⟨_, fun d h => ?_⟩
      cases h
      exact ih
  | close next ih =>
      refine ⟨_, fun d h => ?_⟩
      cases h with
      | close _ error => exact ih error

theorem Moves.follows (h : Moves session x y) : Follows y.1 x.1 := by
  cases h <;> constructor

/-- A dialogue can go on unless it is done. -/
theorem exists_moves_iff {d : Dialogue α} {state : σ} :
    (∃ y, Moves session (d, state) y) ↔ ∀ result, d ≠ .done result := by
  constructor
  · rintro ⟨y, move⟩ result rfl
    nomatch move
  · intro hnot
    cases d with
    | done result => exact absurd rfl (hnot result)
    | log line next => exact ⟨_, .log line next state⟩
    | send statement next => exact ⟨_, .send statement next state⟩
    | cancel next => exact ⟨_, .cancel next state⟩
    | close next => exact ⟨_, .close next state⟩

end Dialogue

/-! ## Two dialogues -/

/-- Two dialogues at the same time: what is left of each, what its session keeps for itself, and the
state that the sessions share. -/
structure Tandem (ρ τ σ α β : Type) where
  first : Dialogue α
  second : Dialogue β
  firstOwn : ρ
  secondOwn : τ
  shared : σ

namespace Tandem

open Dialogue

variable {ρ τ σ α β : Type} {one : Session (ρ × σ)} {two : Session (τ × σ)}

/-- The first dialogue, with the state its session is in. -/
def left (c : Tandem ρ τ σ α β) : Dialogue α × ρ × σ :=
  (c.first, c.firstOwn, c.shared)

/-- The second dialogue, with the state its session is in. -/
def right (c : Tandem ρ τ σ α β) : Dialogue β × τ × σ :=
  (c.second, c.secondOwn, c.shared)

/-- One action of one of the two. -/
inductive Turn (one : Session (ρ × σ)) (two : Session (τ × σ)) :
    Tandem ρ τ σ α β → Tandem ρ τ σ α β → Prop where
  | first {c : Tandem ρ τ σ α β} {y : Dialogue α × ρ × σ} (move : Moves one c.left y) :
      Turn one two c { c with first := y.1, firstOwn := y.2.1, shared := y.2.2 }
  | second {c : Tandem ρ τ σ α β} {y : Dialogue β × τ × σ} (move : Moves two c.right y) :
      Turn one two c { c with second := y.1, secondOwn := y.2.1, shared := y.2.2 }

/-- However they take turns, it comes to an end. -/
theorem wellFounded_turn : WellFounded fun later now : Tandem ρ τ σ α β => Turn one two now later := by
  -- a turn leaves less of one dialogue and does not touch the other
  refine Subrelation.wf ?_ (InvImage.wf (fun c : Tandem ρ τ σ α β => (c.first, c.second))
    (WellFounded.prod_gameAdd wellFounded_follows wellFounded_follows))
  intro later now turn
  cases turn with
  | first move => exact .fst move.follows
  | second move => exact .snd move.follows

/-- Neither has a turn exactly if both are done. -/
theorem stuck_iff {c : Tandem ρ τ σ α β} :
    (∀ later, ¬ Turn one two c later) ↔
      (∃ result, c.first = .done result) ∧ ∃ result, c.second = .done result := by
  constructor
  · intro hstuck
    constructor
    · by_contra hnot
      obtain ⟨y, move⟩ := exists_moves_iff.mpr (not_exists.mp hnot)
      exact hstuck _ (.first move)
    · by_contra hnot
      obtain ⟨y, move⟩ := exists_moves_iff.mpr (not_exists.mp hnot)
      exact hstuck _ (.second move)
  · rintro ⟨⟨result, hfirst⟩, result', hsecond⟩ later turn
    cases turn with
    | first move => exact exists_moves_iff.mp ⟨_, move⟩ result hfirst
    | second move => exact exists_moves_iff.mp ⟨_, move⟩ result' hsecond

end Tandem

/-! ## One dialogue on the way of another -/

/-- A session on shared states that others have brought about: each of its actions finds the next
state of a list, and the last ones find what is there then. -/
def Session.along {τ σ : Type} (session : Session (τ × σ)) (still : σ) : Session (τ × List σ) where
  backend := session.backend
  dialect := session.dialect
  send state statement :=
    let (reply, own, _) := session.send (state.1, state.2.headD still) statement
    (reply, own, state.2.tail)
  cancel state := ((session.cancel (state.1, state.2.headD still)).1, state.2.tail)
  close state :=
    let (error, own, _) := session.close (state.1, state.2.headD still)
    (error, own, state.2.tail)

namespace Dialogue

variable {ρ τ σ α β : Type}

/-- From one point of the course of a dialogue to another, on a way through some shared states. -/
def Visits (session : Session (ρ × σ)) :
    Dialogue α × ρ × σ → List σ → Dialogue α × ρ × σ → Prop
  | x, [], y => Leads session x y
  | x, shared :: seen, y => ∃ z, Leads session x z ∧ z.2.2 = shared ∧ Visits session z seen y

namespace Visits

variable {session : Session (ρ × σ)} {x y z : Dialogue α × ρ × σ} {seen : List σ}

theorem trans (h : Visits session x seen y) (hlead : Leads session y z) :
    Visits session x seen z := by
  induction seen generalizing x with
  | nil => exact ReflTransGen.trans h hlead
  | cons shared seen ih =>
      obtain ⟨stop, hstop, hshared, hrest⟩ := h
      exact ⟨stop, hstop, hshared, ih hrest⟩

/-- The state at the end is one of those on the way. -/
theorem append_end (h : Visits session x seen y) : Visits session x (seen ++ [y.2.2]) y := by
  induction seen generalizing x with
  | nil => exact ⟨y, h, rfl, .refl⟩
  | cons shared seen ih =>
      obtain ⟨stop, hstop, hshared, hrest⟩ := h
      exact ⟨stop, hstop, hshared, ih hrest⟩

/-- The first of the states, or else the one at the end, is on the way, with the others behind it. -/
theorem next (h : Visits session x seen y) :
    ∃ z, Leads session x z ∧ z.2.2 = seen.headD y.2.2 ∧ Visits session z seen.tail y := by
  cases seen with
  | nil => exact ⟨y, h, rfl, .refl⟩
  | cons shared seen => exact h

theorem leads (h : Visits session x seen y) : Leads session x y := by
  induction seen generalizing x with
  | nil => exact h
  | cons shared seen ih =>
      obtain ⟨stop, hstop, -, hrest⟩ := h
      exact hstop.trans (ih hrest)

end Visits

/-- Whatever shared states the dialogue finds, its actions leave the shared state alone. -/
structure Quiet (session : Session (τ × σ)) (d : Dialogue β) (own : τ) : Prop where
  sent : ∀ still seen, ∀ e ∈ exchanges (session.along still) d (own, seen), ∀ state,
    (session.send state e.statement).2.2 = state.2
  cancelled : ∀ state, (session.cancel state).2 = state.2
  closed : ∀ state, (session.close state).2.2 = state.2

variable {session : Session (τ × σ)} {x y : Dialogue β × τ × σ}

/-- An action finds the shared state, or it has nothing to do with the session. -/
theorem Moves.along (move : Moves session x y) :
    (∀ still rest, Moves (session.along still) (x.1, x.2.1, rest) (y.1, y.2.1, rest)) ∨
      ∀ still rest,
        Moves (session.along still) (x.1, x.2.1, x.2.2 :: rest) (y.1, y.2.1, rest) := by
  cases move with
  | log line next state => exact .inl fun still rest => .log line next (state.1, rest)
  | send statement next state =>
      exact .inr fun still rest => .send statement next (state.1, state.2 :: rest)
  | cancel next state => exact .inr fun still rest => .cancel next (state.1, state.2 :: rest)
  | close next state => exact .inr fun still rest => .close next (state.1, state.2 :: rest)

theorem Quiet.shared_eq (h : Quiet session x.1 x.2.1) (move : Moves session x y) :
    y.2.2 = x.2.2 := by
  cases move with
  | log => rfl
  | send statement next state => exact h.sent state.2 [] _ List.mem_cons_self state
  | cancel next state => exact h.cancelled state
  | close next state => exact h.closed state

theorem Quiet.leads {d d' : Dialogue β} {own own' : τ} (h : Quiet session d own) {seen : List σ}
    (hlead : ∀ still rest, Leads (session.along still) (d, own, seen ++ rest) (d', own', rest)) :
    Quiet session d' own' where
  sent := fun still rest e he => h.sent still (seen ++ rest) e ((hlead still rest).suffix.subset he)
  cancelled := h.cancelled
  closed := h.closed

end Dialogue

namespace Tandem

open Dialogue

variable {ρ τ σ α β : Type} {one : Session (ρ × σ)} {two : Session (τ × σ)}
  {start now : Tandem ρ τ σ α β}

/-- **Turns with one who only looks.** If the second dialogue leaves the shared state alone, then the
first goes its way as if it were alone, and the second goes on as it would with the states that it
finds there, in order. -/
theorem along_of_turns (hquiet : Quiet two start.second start.secondOwn)
    (h : ReflTransGen (Turn one two) start now) :
    ∃ seen, Visits one start.left seen now.left ∧ ∀ still rest,
      Leads (two.along still) (start.second, start.secondOwn, seen ++ rest)
        (now.second, now.secondOwn, rest) := by
  -- on the turns; the states found so far are general in what is found after them
  induction h with
  | refl => exact ⟨[], .refl, fun _ _ => .refl⟩
  | @tail c c' _ turn ih =>
      obtain ⟨seen, hvisits, hleads⟩ := ih
      cases turn with
      | first move => exact ⟨seen, hvisits.trans (.single move), hleads⟩
      | @second y move =>
          -- it leaves the shared state alone, so the first stays where it is
          have hsame : y.2.2 = c.shared := Quiet.shared_eq (hquiet.leads hleads) move
          simp only [left, hsame]
          rcases move.along with hlog | hlook
          · exact ⟨seen, hvisits, fun still rest => (hleads still rest).tail (hlog still rest)⟩
          · refine ⟨seen ++ [c.shared], hvisits.append_end, fun still rest => ?_⟩
            rw [List.append_assoc]
            exact (hleads still (c.shared :: rest)).tail (hlook still rest)

end Tandem

end SchemaMigration
