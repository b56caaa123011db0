/-
Synthetic events, drawn from a source of words.

An event draws, in this order, the tenant of its addresses, the two extensions, the state and, unless tenants are to be
consistent, a tenant of its own. Events are numbered by a counter that cannot pass `lastCallId`; a batch that would pass
it stops there.

- `Factory.batch_counter`: a batch that did not stop has counted every event;
- `Factory.batch_stops`: one that did has counted to the end.
-/
import CallFeed.Event
import CallFeed.Words
import CallFeed.Fault

namespace CallFeed

open CallFeed.Text (decimal)

/-- how many tenants there are -/
def tenantCount : Nat := 100

/-- the domain of a tenant -/
def tenantName (i : Nat) : Text := "tenant-".toList ++ decimal i ++ ".com".toList

/-- the domains of all tenants -/
def tenants : List Text := (List.range tenantCount).map tenantName

theorem length_tenants : tenants.length = tenantCount := by simp [tenants]

/-- the domain in a place of the table -/
def tenant (i : Fin tenantCount) : Text := tenants.get (i.cast length_tenants.symm)

theorem tenant_eq (i : Fin tenantCount) : tenant i = tenantName i := by
  rw [tenant, List.get_eq_getElem]
  simp only [tenants, List.getElem_map, List.getElem_range]
  rfl

/-- the least extension -/
def firstExtension : Nat := 1000

/-- how many extensions there are -/
def extensionCount : Nat := 9000

/-- the last number an event can have -/
def lastCallId : Nat := UInt64.size - 1

/-- about the length of an event's line -/
def lineSizeHint : Nat := 320

/-- where events come from: words to draw from, and the stamp of each event by its number -/
structure Source where
  words : Words
  stamp : Nat → Stamp := fun _ => .withheld

/-- makes events; with consistent tenants an event's own tenant is that of its addresses -/
structure Factory where
  consistent : Bool
deriving DecidableEq, Repr

/-- lines drawn one after another: their text, where the counter and the words stand after them, and what stopped them
short -/
structure Batch where
  text : Text
  counter : Nat
  pos : Nat
  fault : Option Fault

/-- a text being drawn up: what it holds, the number of the last event and the position in the words -/
structure Draft where
  buffer : Text := []
  counter : Nat := 0
  pos : Nat := 0
deriving DecidableEq, Repr

namespace Factory

/-- the event of a number, drawn at a position, and the position after it -/
def event (f : Factory) (src : Source) (id pos : Nat) : Event × Nat :=
  let uri := src.words.draw tenantCount (by decide) pos
  let caller := src.words.draw extensionCount (by decide) uri.2
  let callee := src.words.draw extensionCount (by decide) caller.2
  let state := src.words.draw CallState.all.length (by decide) callee.2
  let own := if f.consistent then (uri.1, state.2) else src.words.draw tenantCount (by decide) state.2
  ({ callId := id
     callerExt := firstExtension + caller.1
     calleeExt := firstExtension + callee.1
     uriTenant := tenant uri.1
     state := CallState.ofIndex state.1
     tenantId := tenant own.1
     stamp := src.stamp id },
   own.2)

/-- the lines of the next `count` events after a counter and a position -/
def batch (f : Factory) (src : Source) : (count counter pos : Nat) → Batch
  | 0, counter, pos => ⟨[], counter, pos, none⟩
  | count + 1, counter, pos =>
    if lastCallId ≤ counter then ⟨[], counter, pos, some .callIdOverflow⟩
    else
      let next := f.event src (counter + 1) pos
      let rest := f.batch src count (counter + 1) next.2
      { rest with text := next.1.line ++ rest.text }

/-- `count` more lines at the end of a draft -/
def renderBatch (f : Factory) (src : Source) (count : Nat) (d : Draft) : Draft × Option Fault :=
  let b := f.batch src count d.counter d.pos
  (⟨d.buffer ++ b.text, b.counter, b.pos⟩, b.fault)

theorem batch_counter (f : Factory) (src : Source) {count counter pos : Nat}
    (h : (f.batch src count counter pos).fault = none) :
    (f.batch src count counter pos).counter = counter + count ∧ (0 < count → counter + count ≤ lastCallId) := by
  induction count generalizing counter pos with
  | zero => simp [batch]
  | succ count ih =>
    simp only [batch] at h ⊢
    split at h
    · cases h
    · rename_i hc
      rw [if_neg hc]
      obtain ⟨h1, h2⟩ := ih h
      refine ⟨by simp only [h1]; omega, fun _ => ?_⟩
      rcases Nat.eq_zero_or_pos count with rfl | hp
      · omega
      · have := h2 hp; omega

theorem batch_stops (f : Factory) (src : Source) {count counter pos : Nat} (hc : counter ≤ lastCallId)
    (h : (f.batch src count counter pos).fault ≠ none) :
    (f.batch src count counter pos).counter = lastCallId := by
  induction count generalizing counter pos with
  | zero => simp [batch] at h
  | succ count ih =>
    simp only [batch] at h ⊢
    split
    · simp only; omega
    · rename_i hlt
      rw [if_neg hlt] at h
      exact ih (by omega) h

end Factory

end CallFeed
