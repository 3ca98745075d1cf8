/-
  The command loop is the fold of `handle`.  The loop reads and executes on its
  own, with an early end at `quit` and an early turn at words that cannot be
  read; what it reports and leaves is what `handle` gives and leaves for the
  same words.

  * `Session.answerEach`: words handled one after the other and answered;
  * `Session.run_eq`: the loop answers all that come before the first `quit`;
  * `Session.run_folds`: its reports are the answers of `handle`, its state is the
    one they lead to, and the rest is not read.
-/
import SourceDebugger.Proofs.Bounds
import SourceDebugger.Proofs.Stops

namespace SourceDebugger

open SourceDebugger.Action

/-! ## Reports -/

namespace Action

variable {σ α β : Type}

/-- What is reported when `act` begins in `s`. -/
def reports (act : Action σ α) (s : σ) : List Feedback :=
  (act s).events.filterMap Event.report?

theorem reports_bind {act : Action σ α} {next : α → Action σ β} {s s' : σ} {a : α}
    (h : act.Gives s (.ok a) s') :
    (act >>= next).reports s = act.reports s ++ (next a).reports s' := by
  obtain ⟨hr, rfl⟩ := h
  rw [reports, bind_of_ok hr]
  exact List.filterMap_append

end Action

/-- The bounds in which nothing is reported. -/
def Bounds.unreported (σ : Type) : Bounds σ where
  fails _ _ := True
  tells x := x.report? = none

/-- What tells nothing at all reports nothing. -/
theorem Bounds.unreported_of_events {σ α : Type} {act : Action σ α}
    (h : ∀ s, (act s).events = []) : (Bounds.unreported σ).Confines act :=
  fun s => ⟨fun _ => trivial, by rw [h]; exact nofun, fun _ => trivial⟩

namespace Simulated

theorem whileAlive_events {α : Type} (f : Simulated → α × Simulated) (p : Simulated) :
    (whileAlive f p).events = [] := by
  unfold whileAlive
  split <;> rfl

theorem readWord_events (a : Addr) (p : Simulated) : (readWord a p).events = [] := by
  unfold readWord
  split
  · rfl
  · split <;> rfl

theorem writeWord_events (a : Addr) (w : Word) (p : Simulated) :
    (writeWord a w p).events = [] := by
  unfold writeWord
  split
  · rfl
  · split <;> rfl

theorem takePending_events (p : Simulated) : (takePending p).events = [] := by
  unfold takePending
  split <;> rfl

theorem readMap_events (p : Simulated) : (readMap p).events = [] := by
  unfold readMap
  split
  · rfl
  · split <;> rfl

/-- A simulated process reports nothing. -/
theorem unreported : (Bounds.unreported Simulated).Respected where
  own _ _ := trivial
  log _ := rfl
  window _ := rfl
  readWord a := Bounds.unreported_of_events (readWord_events a)
  writeWord a w := Bounds.unreported_of_events (writeWord_events a w)
  readRegister _ := Bounds.unreported_of_events (whileAlive_events _)
  writeRegister _ _ := Bounds.unreported_of_events (whileAlive_events _)
  resume := Bounds.unreported_of_events (whileAlive_events _)
  step := Bounds.unreported_of_events (whileAlive_events _)
  wait := Bounds.unreported_of_events takePending_events
  memoryMap := Bounds.unreported_of_events readMap_events
  kill := Bounds.unreported_of_events (whileAlive_events _)
  detach := Bounds.unreported_of_events (whileAlive_events _)

end Simulated

namespace Session

variable {τ : Type} [Tracee τ] {words : List String} {s : Session τ}

/-! ## Handling and serving -/

/-- Whether words are read as the command to quit. -/
def quits (words : List String) : Bool :=
  match Command.ofWords words with
  | .ok .quit => true
  | _ => false

theorem handle_of_error {e : Failure} (h : Command.ofWords words = .error e) :
    (handle words : Action (Session τ) Feedback) = pure (.failed e) := by
  funext s
  rw [handle, h]
  rfl

theorem handle_of_ok {c : Command} (h : Command.ofWords words = .ok c) :
    (handle words : Action (Session τ) Feedback) =
      (execute c).attempt >>= fun r => pure (Feedback.ofResult r) := by
  rw [handle, h]
  exact congrArg (fun act : Action (Session τ) Feedback => act.attempt >>= _)
    (pure_bind c execute)

/-- Words that do not quit are handled, and the answer is reported. -/
theorem serve_of_not_quits (h : ¬ quits words) :
    (serve (.words words) : Action (Session τ) (Option (Except Failure Unit))) = do
      tell (.report (← handle words))
      return none := by
  rcases hread : Command.ofWords words with e | c
  · rw [handle_of_error hread, pure_bind, serve, hread]
  · rw [handle_of_ok hread, bind_assoc, serve, hread]
    cases c with
    | quit => exact absurd (by rw [quits, hread]) h
    | _ => simp only [pure_bind]

theorem serve_of_quits (h : quits words) :
    (serve (.words words) : Action (Session τ) (Option (Except Failure Unit))) = do
      leave
      return some (.ok ()) := by
  unfold quits at h
  split at h
  · rename_i hread
    rw [serve, hread]
  · cases h

/-! ## The loop -/

/-- Handles words one after the other and reports what each gives. -/
def answerEach : List (List String) → Action (Session τ) Unit
  | [] => pure ()
  | words :: script => do
    tell (.report (← handle words))
    answerEach script

/-- The words that are handled: all before those with which the user quits. -/
def servedOf (script : List (List String)) : List (List String) :=
  script.takeWhile fun words => !quits words

/-- What comes behind the words that are handled and those that quit. -/
def unreadOf (script : List (List String)) : List (List String) :=
  script.drop ((servedOf script).length + 1)

section
variable {script : List (List String)}

theorem servedOf_cons_of_quits (h : quits words) : servedOf (words :: script) = [] :=
  List.takeWhile_cons_of_neg (by simpa using h)

theorem servedOf_cons_of_not (h : ¬ quits words) :
    servedOf (words :: script) = words :: servedOf script :=
  List.takeWhile_cons_of_pos (by simpa using h)

theorem unreadOf_cons_of_quits (h : quits words) : unreadOf (words :: script) = script := by
  rw [unreadOf, servedOf_cons_of_quits h]
  rfl

theorem unreadOf_cons_of_not (h : ¬ quits words) :
    unreadOf (words :: script) = unreadOf script := by
  rw [unreadOf, servedOf_cons_of_not h]
  rfl

end

/-- The loop comes to the first words that quit, or to the end. -/
theorem script_split (script : List (List String)) :
    (∀ words ∈ servedOf script, ¬ quits words) ∧
      (servedOf script = script ∧ unreadOf script = [] ∨
        ∃ words, quits words ∧ script = servedOf script ++ words :: unreadOf script) := by
  induction script with
  | nil => exact ⟨nofun, Or.inl ⟨rfl, rfl⟩⟩
  | cons words script ih =>
    by_cases h : quits words
    · rw [servedOf_cons_of_quits h, unreadOf_cons_of_quits h]
      exact ⟨nofun, Or.inr ⟨words, h, rfl⟩⟩
    · obtain ⟨hfree, hends⟩ := ih
      rw [servedOf_cons_of_not h, unreadOf_cons_of_not h]
      refine ⟨List.forall_mem_cons.2 ⟨h, hfree⟩, ?_⟩
      obtain ⟨hall, hnone⟩ | ⟨last, hlast, hsplit⟩ := hends
      · exact Or.inl ⟨by rw [hall], hnone⟩
      · exact Or.inr ⟨last, hlast, congrArg (words :: ·) hsplit⟩

/-- **The loop answers what comes before the first `quit`,** and does nothing
    else but to take its leave. -/
theorem run_eq (script : List (List String)) :
    (run (script.map .words) : Action (Session τ) Hearing) = do
      answerEach (servedOf script)
      leave
      return ⟨.ok (), (unreadOf script).map .words⟩ := by
  induction script with
  | nil => rfl
  | cons words script ih =>
    rw [List.map_cons, run]
    by_cases h : quits words
    · rw [serve_of_quits h, servedOf_cons_of_quits h, unreadOf_cons_of_quits h, answerEach,
        bind_assoc, pure_bind]
      rfl
    · rw [serve_of_not_quits h, servedOf_cons_of_not h, unreadOf_cons_of_not h, answerEach]
      simp only [bind_assoc, pure_bind]
      refine bind_congr fun feedback => bind_congr fun _ => ?_
      exact ih

/-! ## The answers -/

/-- What `handle` gives for words one after the other. -/
def answers (s : Session τ) : List (List String) → List (Except Failure Feedback)
  | [] => []
  | words :: script => (handle words s).result :: answers (handle words s).state script

/-- The session that handling words one after the other leaves. -/
def handled (s : Session τ) (script : List (List String)) : Session τ :=
  script.foldl (fun s words => (handle words s).state) s

/-- What goes wrong becomes an answer. -/
theorem handle_gives (words : List String) (s : Session τ) :
    ∃ feedback, (handle words).Gives s (.ok feedback) (handle words s).state :=
  ⟨_, rfl, rfl⟩

theorem answerEach_gives (script : List (List String)) (s : Session τ) :
    (answerEach script).Gives s (.ok ()) (handled s script) := by
  induction script generalizing s with
  | nil => exact gives_pure.2 ⟨rfl, rfl⟩
  | cons words script ih =>
    obtain ⟨feedback, hgives⟩ := handle_gives words s
    exact hgives.bind ((gives_tell.2 ⟨rfl, rfl⟩).bind (ih _))

section
variable (hτ : (Bounds.unreported τ).Respected)
include hτ

/-- To handle words reports nothing. -/
theorem handle_reports (words : List String) (s : Session τ) : (handle words).reports s = [] := by
  have hserved : (Bounds.unreported τ).session.Confines
      (Action.ofExcept (Command.ofWords words) >>= execute) :=
    fun s => (Bounds.ConfinesAt.ofExcept fun _ _ => trivial).bind fun c s₁ _ =>
      execute_confined hτ c s₁
  have hhandle : (Bounds.unreported τ).session.Confines (handle words) :=
    .bind (.attempt hserved) fun _ => .pure _
  exact List.filterMap_eq_nil_iff.2 (hhandle s).tells

theorem answerEach_reports (script : List (List String)) (s : Session τ) :
    ((answerEach script).reports s).map .ok = answers s script := by
  induction script generalizing s with
  | nil => rfl
  | cons words script ih =>
    obtain ⟨feedback, hgives⟩ := handle_gives words s
    have htell : (Action.tell (.report feedback)).Gives (handle words s).state (.ok ())
        (handle words s).state := gives_tell.2 ⟨rfl, rfl⟩
    rw [answerEach, reports_bind hgives, handle_reports hτ, List.nil_append, reports_bind htell,
      List.map_append, ih, answers, hgives.1]
    rfl

/-- **The command loop is the fold of `handle`.**  Of whatever the user says it
    reads all up to the first words that quit, and reports what `handle` gives
    for those before, one after the other from the same session, which ends as
    `handle` leaves it.  Words that cannot be read and commands that fail are
    answered like others, and nothing is executed to quit. -/
theorem run_folds (s : Session τ) (script : List (List String)) :
    ((∀ words ∈ servedOf script, ¬ quits words) ∧
      (servedOf script = script ∧ unreadOf script = [] ∨
        ∃ words, quits words ∧ script = servedOf script ++ words :: unreadOf script)) ∧
      (run (script.map .words) : Action (Session τ) Hearing) = (do
        answerEach (servedOf script)
        leave
        return ⟨.ok (), (unreadOf script).map .words⟩) ∧
      (run (script.map .words)).Gives s (.ok ⟨.ok (), (unreadOf script).map .words⟩)
        (handled s (servedOf script)) ∧
      ((run (script.map .words)).reports s).map .ok = answers s (servedOf script) := by
  have hgives := answerEach_gives (servedOf script) s
  have hleave : ∀ s : Session τ, (leave : Action (Session τ) Unit).Gives s (.ok ()) s :=
    fun s => gives_log.2 ⟨rfl, rfl⟩
  refine ⟨script_split script, run_eq script, ?_, ?_⟩
  · rw [run_eq]
    exact hgives.bind ((hleave _).bind (gives_pure.2 ⟨rfl, rfl⟩))
  · rw [run_eq, reports_bind hgives, reports_bind (hleave _), List.map_append,
      answerEach_reports hτ]
    exact List.append_nil _

end

/-- Words that cannot be read, commands that fail and a process that is killed do
    not end the loop; what is said after `quit` is not read. -/
def saying : List (List String) :=
  [["bogus"], ["break", "nowhere"], ["continue"], ["memory", "read", "0x10"], ["kill"], ["next"],
    ["q"], ["info"]]

theorem run_folds_paused :
    (Bounds.unreported Simulated).Respected ∧
      servedOf saying = saying.take 6 ∧
      (run (saying.map .words)).Gives paused (.ok ⟨.ok (), [.words ["info"]]⟩)
        (handled paused (saying.take 6)) ∧
      ((run (saying.map .words)).reports paused).map .ok = answers paused (saying.take 6) ∧
      (answers paused (saying.take 6))[2]? =
        some (.ok (.stopped (.hitBreakpoint (Fixture.runtime 0x113c)))) ∧
      (answers paused (saying.take 6))[5]? = some (.ok (.failed .processExited)) := by
  have hserved : servedOf saying = saying.take 6 := by decide +kernel
  have hunread : unreadOf saying = [["info"]] := by decide +kernel
  obtain ⟨-, -, hgives, hreports⟩ := run_folds Simulated.unreported paused saying
  rw [hserved, hunread] at hgives
  rw [hserved] at hreports
  exact ⟨Simulated.unreported, hserved, hgives, hreports, by decide +kernel, by decide +kernel⟩

end Session

end SourceDebugger
