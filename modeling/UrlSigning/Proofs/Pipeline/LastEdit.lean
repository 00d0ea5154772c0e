import Mathlib.Data.List.Induction
import UrlSigning.Proofs.Pipeline.Handover

/-!
# Presigning edits, one after another

Interceptors of presigning may be called on one pass in any order and any number of times.
`PresigningCall.Outcome` lists what can come of a call; what calls leave is derived from it alone.
An edit of the configuration overwrites whatever an earlier one wrote (`presigned_edits`), so that
of many edits the last one is left, and all that no edit is about stays as it was.
-/

namespace UrlSigning.Pipeline

open Stage

/-- A call of an interceptor of presigning. -/
structure PresigningCall where
  hook : Hook
  window : Signing.Window
  payload : Signing.Payload

/-- The second pass has the request and the layers of the first, and under every key that is not
presigning's the same setting. -/
structure Pass.SameBeside (p q : Pass) : Prop where
  request : q.request = p.request
  attempt : q.attempt = p.attempt
  layers : q.bag.layers = p.bag.layers
  others : ∀ key, key ≠ .signing → key ≠ .headerDefaults → q.bag.load? key = p.bag.load? key

namespace Pass.SameBeside

variable {p q r : Pass}

theorem refl (p : Pass) : p.SameBeside p := ⟨rfl, rfl, rfl, fun _ _ _ => rfl⟩

theorem trans (h : p.SameBeside q) (k : q.SameBeside r) : p.SameBeside r where
  request := k.request.trans h.request
  attempt := k.attempt.trans h.attempt
  layers := k.layers.trans h.layers
  others key hs hd := (k.others key hs hd).trans (h.others key hs hd)

end Pass.SameBeside

namespace PresigningCall

/-- What the call does to a configuration. -/
def edit (call : PresigningCall) (c : Signing.Config) : Signing.Config :=
  if call.hook = .beforeSigning then presigned call.window call.payload c else c

theorem edit_eq_id {call : PresigningCall} (h : call.hook ≠ .beforeSigning) : call.edit = id :=
  funext fun _ => if_neg h

/-- What can come of a call. -/
inductive Outcome (call : PresigningCall) (p : Pass) : Except Failure Unit × Pass → Prop
  | defaults (h : call.hook = .beforeSerialization) :
      Outcome call p (.ok (), { p with bag := p.bag.put (.headerDefaults ⟨true, true⟩) })
  | edited {c : Signing.Config} (h : call.hook = .beforeSigning)
      (hc : p.bag.signing? = some c) :
      Outcome call p (.ok (),
        { p with
          bag := p.bag.put (.signing (presigned call.window call.payload c))
          log := p.log ++ [.presigning c.service call.window.length] })
  | missing (h : call.hook = .beforeSigning) (hc : p.bag.signing? = none) :
      Outcome call p (.error .missingSetup, p)
  | idle (hs : call.hook ≠ .beforeSigning) (hd : call.hook ≠ .beforeSerialization) :
      Outcome call p (.ok (), p)

section

variable (w : Surroundings) (maxAttempts : Nat)

def stage (call : PresigningCall) : Stage Unit :=
  (Behaviour.presigning call.window call.payload).call w maxAttempts call.hook

/-- The pass that calls leave. A call that fails leaves its pass to the next one all the same. -/
def run (calls : List PresigningCall) (p : Pass) : Pass :=
  calls.foldl (fun p call => ((call.stage w maxAttempts).exec p).2) p

theorem outcome (call : PresigningCall) (p : Pass) :
    call.Outcome p ((call.stage w maxAttempts).exec p) := by
  obtain ⟨hook, window, payload⟩ := call
  cases hook with
  | beforeSerialization => exact .defaults rfl
  | beforeSigning =>
      show Outcome _ _ ((editConfig window payload).exec p)
      rw [editConfig, exec_get_bind]
      rcases hc : p.bag.signing? with _ | c
      · exact .missing rfl hc
      · exact .edited rfl hc
  | _ => exact .idle (by simp) (by simp)

theorem run_concat (calls : List PresigningCall) (call : PresigningCall) (p : Pass) :
    run w maxAttempts (calls ++ [call]) p =
      ((call.stage w maxAttempts).exec (run w maxAttempts calls p)).2 :=
  List.foldl_append

end

/-! ## One call -/

section Outcome

variable {call : PresigningCall} {p : Pass} {r : Except Failure Unit × Pass}

theorem Outcome.sameBeside (h : call.Outcome p r) : p.SameBeside r.2 := by
  cases h with
  | defaults h =>
      refine ⟨rfl, rfl, rfl, ?_⟩
      intro key _ hd
      exact (Bag.load?_put _ _ _).trans (if_neg (Ne.symm hd))
  | edited h hc =>
      refine ⟨rfl, rfl, rfl, ?_⟩
      intro key hs _
      exact (Bag.load?_put _ _ _).trans (if_neg (Ne.symm hs))
  | missing h hc => exact .refl p
  | idle hs hd => exact .refl p

theorem Outcome.signing? (h : call.Outcome p r) :
    r.2.bag.signing? = p.bag.signing?.map call.edit := by
  cases h with
  | defaults h =>
      rw [edit_eq_id (by simp [h]), Option.map_id]
      exact Bag.signing?_put_headerDefaults _ _
  | edited h hc =>
      rw [hc, Option.map_some, edit, if_pos h]
      exact Bag.signing?_put_signing _ _
  | missing h hc => rw [hc, Option.map_none]
  | idle hs hd =>
      rw [edit_eq_id hs, Option.map_id]
      rfl

/-- Where nothing is to be edited, what lies under the configuration's key stays. -/
theorem Outcome.load?_signing (h : call.Outcome p r)
    (hs : call.hook ≠ .beforeSigning ∨ p.bag.signing? = none) :
    r.2.bag.load? .signing = p.bag.load? .signing := by
  cases h with
  | defaults h => exact Bag.load?_put _ _ _
  | edited h hc => simp [h, hc] at hs
  | missing h hc => rfl
  | idle hs hd => rfl

theorem Outcome.headerDefaults? (h : call.Outcome p r) (hd : call.hook = .beforeSerialization) :
    r.2.bag.headerDefaults? = some ⟨true, true⟩ := by
  cases h with
  | defaults h => exact Bag.headerDefaults?_put_headerDefaults _ _
  | edited h hc => simp [h] at hd
  | missing h hc => simp [h] at hd
  | idle hs hd' => exact absurd hd hd'

theorem Outcome.load?_headerDefaults (h : call.Outcome p r)
    (hd : call.hook ≠ .beforeSerialization) :
    r.2.bag.load? .headerDefaults = p.bag.load? .headerDefaults := by
  cases h with
  | defaults h => exact absurd h hd
  | edited h hc => exact Bag.load?_put _ _ _
  | missing h hc => rfl
  | idle hs hd => rfl

theorem Outcome.ok (h : call.Outcome p r) {c : Signing.Config} (hc : p.bag.signing? = some c) :
    r.1 = .ok () := by
  cases h with
  | missing h hnone => simp [hc] at hnone
  | _ => rfl

/-- A call that is to edit a configuration where there is none fails, and leaves the pass as it
is. -/
theorem Outcome.eq_missing (h : call.Outcome p r) (hs : call.hook = .beforeSigning)
    (hc : p.bag.signing? = none) : r = (.error .missingSetup, p) := by
  cases h with
  | defaults h => simp [hs] at h
  | edited h hsome => simp [hc] at hsome
  | missing h hnone => rfl
  | idle hs' hd => exact absurd hs hs'

end Outcome

/-! ## Many calls -/

/-- What the calls do to a configuration. -/
def edits (calls : List PresigningCall) (c : Signing.Config) : Signing.Config :=
  calls.foldl (fun c call => call.edit c) c

/-- An edit overwrites those before it. -/
theorem presigned_edits (calls : List PresigningCall) (window : Signing.Window)
    (payload : Signing.Payload) (c : Signing.Config) :
    presigned window payload (edits calls c) = presigned window payload c := by
  induction calls generalizing c with
  | nil => rfl
  | cons call rest ih =>
      show presigned window payload (edits rest (call.edit c)) = _
      rw [ih, edit]
      split <;> rfl

theorem edits_eq_self {calls : List PresigningCall}
    (h : ∀ call ∈ calls, call.hook ≠ .beforeSigning) (c : Signing.Config) :
    edits calls c = c := by
  induction calls with
  | nil => rfl
  | cons call rest ih =>
      obtain ⟨hcall, hrest⟩ := List.forall_mem_cons.mp h
      show edits rest (call.edit c) = c
      rw [edit_eq_id hcall]
      exact ih hrest

/-- The last edit is left. -/
theorem edits_of_last (before : List PresigningCall) {call : PresigningCall}
    {after : List PresigningCall} (hcall : call.hook = .beforeSigning)
    (hafter : ∀ later ∈ after, later.hook ≠ .beforeSigning) (c : Signing.Config) :
    edits (before ++ call :: after) c = presigned call.window call.payload c := by
  rw [edits, List.foldl_append]
  show edits after (call.edit (edits before c)) = _
  rw [edits_eq_self hafter, edit, if_pos hcall, presigned_edits]

section

variable (w : Surroundings) (maxAttempts : Nat) (calls : List PresigningCall) (p : Pass)

theorem sameBeside_run : p.SameBeside (run w maxAttempts calls p) := by
  induction calls using List.reverseRecOn with
  | nil => exact .refl p
  | append_singleton calls call ih =>
      rw [run_concat]
      exact ih.trans (outcome w maxAttempts call _).sameBeside

theorem signing?_run :
    (run w maxAttempts calls p).bag.signing? = p.bag.signing?.map (edits calls) := by
  induction calls using List.reverseRecOn with
  | nil => exact Option.map_id'.symm
  | append_singleton calls call ih =>
      rw [run_concat, (outcome w maxAttempts call _).signing?, ih, Option.map_map]
      congr 1
      funext c
      rw [edits, List.foldl_append]
      rfl

variable {calls}

theorem load?_signing_run
    (h : (∀ call ∈ calls, call.hook ≠ .beforeSigning) ∨ p.bag.signing? = none) :
    (run w maxAttempts calls p).bag.load? .signing = p.bag.load? .signing := by
  induction calls using List.reverseRecOn with
  | nil => rfl
  | append_singleton calls call ih =>
      rw [List.forall_mem_append, List.forall_mem_singleton] at h
      have hlast : call.hook ≠ .beforeSigning ∨
          (run w maxAttempts calls p).bag.signing? = none := by
        rw [signing?_run, Option.map_eq_none_iff]
        exact h.imp_left And.right
      rw [run_concat, (outcome w maxAttempts call _).load?_signing hlast]
      exact ih (h.imp_left And.left)

theorem load?_headerDefaults_run (h : ∀ call ∈ calls, call.hook ≠ .beforeSerialization) :
    (run w maxAttempts calls p).bag.load? .headerDefaults = p.bag.load? .headerDefaults := by
  induction calls using List.reverseRecOn with
  | nil => rfl
  | append_singleton calls call ih =>
      obtain ⟨hcalls, hcall⟩ := List.forall_mem_append.mp h
      rw [run_concat,
        (outcome w maxAttempts call _).load?_headerDefaults (hcall call List.mem_cons_self)]
      exact ih hcalls

theorem headerDefaults?_run (h : ∃ call ∈ calls, call.hook = .beforeSerialization) :
    (run w maxAttempts calls p).bag.headerDefaults? = some ⟨true, true⟩ := by
  induction calls using List.reverseRecOn with
  | nil =>
      obtain ⟨_, hmem, _⟩ := h
      cases hmem
  | append_singleton calls call ih =>
      rw [run_concat]
      have hout := outcome w maxAttempts call (run w maxAttempts calls p)
      by_cases hd : call.hook = .beforeSerialization
      · exact hout.headerDefaults? hd
      · -- the choice was made before, and this call leaves it
        obtain ⟨earlier, hmem, hearlier⟩ := h
        rcases List.mem_append.mp hmem with hmem | hmem
        · rw [Bag.headerDefaults?, hout.load?_headerDefaults hd]
          exact ih ⟨earlier, hmem, hearlier⟩
        · rw [List.mem_singleton.mp hmem] at hearlier
          exact absurd hearlier hd

end

end PresigningCall

end UrlSigning.Pipeline
