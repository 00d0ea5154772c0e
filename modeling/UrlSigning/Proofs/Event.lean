import UrlSigning.Event

/-!
# What a log tells

A log tells which interceptors were called at which hooks, and which of them were passed over.
-/

namespace UrlSigning

/-- A call of an interceptor of a kind at a hook, in an attempt. -/
structure HookCall where
  kind : String
  hook : Hook
  attempt : Int
deriving DecidableEq, Repr

namespace Event

/-- The call that the event tells of. -/
def hookCall? : Event → Option HookCall
  | .running kind hook attempt _ => some ⟨kind, hook, attempt⟩
  | _ => none

/-- Whether the event tells that interceptors of the kind were passed over. -/
def skips (kind : String) : Event → Bool
  | .skipped k _ _ => k == kind
  | _ => false

/-- The event does not tell of interceptors of the kind, neither that one was called nor that they
were passed over. -/
def IsApartFrom (kind : String) (e : Event) : Prop :=
  e.skips kind = false ∧ ∀ c, e.hookCall? = some c → c.kind ≠ kind

theorem hookCall?_of_skips {kind : String} {e : Event} (h : e.skips kind = true) :
    e.hookCall? = none := by
  cases e <;> first | rfl | cases h

theorem hookCall?_of_signing {e : Event} (h : e.source = .signing) : e.hookCall? = none := by
  cases e <;> first | rfl | cases h

theorem isApartFrom_of_signing {kind : String} {e : Event} (h : e.source = .signing) :
    e.IsApartFrom kind := by
  constructor
  · cases e <;> first | rfl | cases h
  · intro c hc
    rw [hookCall?_of_signing h] at hc
    cases hc

end Event

/-- The calls that a log tells of, in order. -/
def hookCalls (log : List Event) : List HookCall :=
  log.filterMap Event.hookCall?

@[simp] theorem hookCalls_append (log more : List Event) :
    hookCalls (log ++ more) = hookCalls log ++ hookCalls more :=
  List.filterMap_append

/-- What is told of interceptors that were passed over is not told of calls. -/
theorem hookCalls_filter_skips (kind : String) (log : List Event) :
    hookCalls (log.filter (!·.skips kind)) = hookCalls log := by
  induction log with
  | nil => rfl
  | cons e log ih =>
      by_cases he : e.skips kind = true
      · rw [List.filter_cons_of_neg (by simp [he]), ih]
        simp [hookCalls, Event.hookCall?_of_skips he]
      · rw [List.filter_cons_of_pos (by simp [he])]
        unfold hookCalls at ih ⊢
        rw [List.filterMap_cons, List.filterMap_cons, ih]

theorem hookCalls_singleton_of_none {e : Event} (h : e.hookCall? = none) : hookCalls [e] = [] := by
  simp [hookCalls, h]

end UrlSigning
