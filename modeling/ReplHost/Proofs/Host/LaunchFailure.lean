import ReplHost.Proofs.Host.Respawn
import ReplHost.Proofs.Host.Launch

/-! # A launch that fails leaves the desk as it was

  A launch (`launch_new`, or the respawn a notification starts) asks the
  factory for a session, starts it and binds it. It can fail at three
  points, all before the first change to anything it shares:

  - the host reports no container: nothing happens at all;
  - the factory fails: it only forgets that it was to fail;
  - the session's start is refused: the attempt is counted, and the new
    session, which nobody else holds yet, is disposed.

  So a failed launch leaves the container (entries, selection, visibility),
  the controller (its registry and whether it is bound), the host's own
  registry, the processes and every session that existed as they were
  (`Host.Undone`). Binding is never reached, so no entry is added and the
  container sends no notification: the outcome is the same whatever the
  controller does when notified.

  Main statement: `failed_launch_leaves_desk`.
-/

namespace ReplHost

variable {T : Type}

namespace Host

variable {h h' : Host T} {s : Nat} {x : Session} {spec : LaunchSpec} {e : HostError} {f : Failure}
  {r : Host T → Host T}

/-! ### The parts of a failed start -/

/-- A refused launch only counts the attempt. -/
theorem launch_of_error (hl : (h.launch spec).2 = .error e) :
    (h.launch spec).1 = { h with launcher := { h.launcher with launches := h.launcher.launches + 1 } } := by
  dsimp only [launch] at hl ⊢
  split
  · rfl
  · rename_i hfail
    rw [if_neg hfail] at hl
    split at hl
    · cases hl
    · split at hl
      · cases hl
      · rename_i hkind _ _ _
        simp only [hkind]

/-- The start of a created session that fails was refused by the launcher:
    the attempt is counted, and the session is left as it was. -/
theorem start_created_of_error (hx : h.session? s = some x) (hc : x.state = .created)
    (hs : x.starting = false) (hst : (h.start s (fun h => (h, ()))).2.2 = .error e) :
    (h.start s (fun h => (h, ()))).1 =
      ({ h with launcher := { h.launcher with launches := h.launcher.launches + 1 } }.modifySession s
        fun x => { x with starting := true }).modifySession s fun x => { x with starting := false } := by
  have hbegin : h.startBegin s = .ok (h.modifySession s fun x => { x with starting := true }, x.spec) :=
    startBegin_eq_ok.mpr ⟨x, hx, hc, hs, rfl, rfl⟩
  generalize hH : h.modifySession s (fun x => { x with starting := true }) = H at hbegin
  -- once the session is marked, the launch is all that can fail
  have hx' : H.session? s = some { x with starting := true } := by
    rw [← hH, session?_modifySession_self, hx]
    rfl
  unfold start at hst ⊢
  rw [hbegin] at hst ⊢
  dsimp only at hst ⊢
  rcases hl : H.launch x.spec with ⟨H₁, _ | c⟩
  · rename_i e'
    rw [hl] at hst
    dsimp only at hst ⊢
    have hH₁ : H₁ = { H with launcher := { H.launcher with launches := H.launcher.launches + 1 } } := by
      simpa only [hl] using launch_of_error (congrArg Prod.snd hl)
    simp only [startFinish_error]
    rw [hH₁, ← hH]
    rfl
  · -- a launched process is adopted, and the start succeeds
    have hx₁ : H₁.session? s = some { x with starting := true } := by
      rw [← session?_launch H x.spec s, hl] at hx'
      exact hx'
    rw [hl] at hst
    dsimp only at hst
    rw [startFinish_created hx₁ hc] at hst
    cases hst

/-! ### A failed launch attempt -/

/-- Changing the element just pushed is pushing it changed. -/
theorem modify_push_size {α : Type} (a : Array α) (y : α) (f : α → α) :
    (a.push y).modify a.size f = a.push (f y) := by
  apply Array.ext (by simp)
  intro i h₁ h₂
  rw [Array.getElem_modify, Array.getElem_push, Array.getElem_push]
  by_cases hi : i < a.size
  · simp [hi, Nat.ne_of_gt hi]
  · have : i = a.size := by simp at h₂; omega
    subst this
    simp

/-- A launch attempt that fails either fails in the factory, which only
    forgets that it was to fail, or makes a session whose start is refused:
    the attempt is counted and the new session stays behind, disposed.
    Nothing else changes, and neither outcome depends on what a
    notification would make the controller do. -/
theorem launchInto_of_error (hl : (launchInto r h).2 = .error f) :
    (launchInto r h).1 = { h with factory := { h.factory with panicNext := false } } ∨
    (launchInto r h).1 = { h with
      sessions := h.sessions.push (Session.create h.nextName h.factory.spec h.factory.options).release
      launcher := { h.launcher with launches := h.launcher.launches + 1 } } := by
  rcases launchInto_cases (show launchInto r h = ((launchInto r h).1, (launchInto r h).2) from rfl) with
    ⟨-, hpanic, -⟩ | ⟨h₂, b, e, hst, hdisp, -⟩ | ⟨_, _, _, _, hres⟩
  · exact .inl hpanic
  · refine .inr ?_
    generalize hy : Session.create h.nextName h.factory.spec h.factory.options = y at hst ⊢
    have hy₁ : (h.addSession y).1.session? h.sessions.size = some y := by simp [addSession, session?]
    have hcreated : y.state = .created := by rw [← hy]; rfl
    have hstarting : y.starting = false := by rw [← hy]; rfl
    -- marking the new session as starting and clearing the mark again gives it back
    have hback : { { y with starting := true } with starting := false } = y := by
      cases y
      cases hstarting
      rfl
    -- the refused start counts the attempt and leaves the new session as it was made
    have h₂eq := start_created_of_error hy₁ hcreated hstarting (by rw [hst])
    rw [hst] at h₂eq
    dsimp only at h₂eq
    have h₂s : h₂.sessions = h.sessions.push y := by
      rw [h₂eq]
      simp only [modifySession, addSession, modify_push_size, hback]
    have hy₂ : h₂.session? h.sessions.size = some y := by simp [session?, h₂s]
    rw [hdisp, dispose_live hy₂ (by rw [hcreated]; decide)]
    simp only [modifySession, h₂s, modify_push_size]
    rw [h₂eq]
    rfl
  · rw [hl] at hres
    cases hres

/-- A launch attempt that fails never reaches binding, so its outcome is
    the same whatever the controller does when notified. -/
theorem launchInto_congr_of_error (hl : (launchInto r h).2 = .error f) (r' : Host T → Host T) :
    launchInto r' h = launchInto r h := by
  unfold launchInto at hl ⊢
  split
  · rfl
  · rename_i hp
    rw [if_neg hp] at hl
    dsimp only at hl ⊢
    split
    · rfl
    · rename_i heq
      rw [heq] at hl
      cases hl

/-! ### What a failed launch leaves -/

/-- What a failed launch leaves of the host `h`. -/
structure Undone (h h' : Host T) : Prop where
  /-- The entries, the selection and the visibility are as they were. -/
  container : h'.container = h.container
  /-- The controller, with its registry and whether it is bound, is as it
      was. -/
  controller : h'.controller = h.controller
  /-- The host's own registry is as it was. -/
  registry : h'.registry = h.registry
  /-- No process is left behind. -/
  children : h'.children = h.children
  /-- Every session that existed is as it was. -/
  kept : ∀ t, t < h.sessions.size → h'.session? t = h.session? t
  /-- At most one session was made, -/
  made : h'.sessions.size ≤ h.sessions.size + 1
  /-- and it is disposed. -/
  disposed : ∀ t, h.sessions.size ≤ t → t < h'.sessions.size → h'.stateOf t = .disposed

theorem Undone.refl (h : Host T) : Undone h h :=
  ⟨rfl, rfl, rfl, rfl, fun _ _ => rfl, Nat.le_succ _, fun _ hle hlt => absurd hlt (Nat.not_lt.mpr hle)⟩

/-- A factory that fails leaves everything but itself. -/
theorem undone_factory (h : Host T) : Undone h { h with factory := { h.factory with panicNext := false } } :=
  ⟨rfl, rfl, rfl, rfl, fun _ _ => rfl, Nat.le_succ _, fun _ hle hlt => absurd hlt (Nat.not_lt.mpr hle)⟩

/-- A refused start leaves everything but the attempts counted and the new
    session, disposed. -/
theorem undone_refused (h : Host T) (y : Session) :
    Undone h { h with sessions := h.sessions.push y.release
                      launcher := { h.launcher with launches := h.launcher.launches + 1 } } where
  container := rfl
  controller := rfl
  registry := rfl
  children := rfl
  kept t ht := by simp [session?, Array.getElem?_push, Nat.ne_of_lt ht]
  made := by simp
  disposed t hle hlt := by
    have ht : t = h.sessions.size := by simp at hlt; omega
    subst ht
    simp [stateOf, session?, Session.release, Session.enter]

/-- A `launch_new` that fails changes nothing the desk shows: the container
    with its entries, selection and visibility, the controller with its
    registry and phase, the host's own registry, the processes and every
    session that existed are as they were, and the one session it may have
    made is disposed. It sends no notification: its outcome is the same
    whatever the controller does when notified. -/
theorem failed_launch_leaves_desk (hl : h.launchNew.2 = .error f) :
    Undone h h.launchNew.1 ∧ ∀ r, h.bridged = true → launchInto r h = h.launchNew := by
  unfold launchNew at hl ⊢
  by_cases hb : h.bridged = true
  · rw [if_pos hb] at hl ⊢
    refine ⟨?_, fun r _ => launchInto_congr_of_error hl r⟩
    rcases launchInto_of_error hl with heq | heq <;> rw [heq]
    · exact undone_factory h
    · exact undone_refused h _
  · -- with no container reported, nothing happens at all
    rw [if_neg hb]
    exact ⟨Undone.refl h, fun _ hb' => absurd hb' hb⟩

/-- The desk showing one console, with a launcher that refuses every
    launch. -/
def refusingDesk : Host Empty := { deskShowing "Rust REPL" with launcher := { failing := true } }

/-- On the desk showing one console, a refused `launch_new` leaves it as it
    was. -/
theorem refused_launch_keeps_shown_console :
    refusingDesk.launchNew.2 = .error (.error (.sessionStart "evcxr: launch refused")) ∧
      Undone refusingDesk refusingDesk.launchNew.1 ∧
      ∀ r, refusingDesk.bridged = true → launchInto r refusingDesk = refusingDesk.launchNew := by
  have hl : refusingDesk.launchNew.2 = .error (.error (.sessionStart "evcxr: launch refused")) := by decide
  exact ⟨hl, failed_launch_leaves_desk hl⟩

end Host

end ReplHost
