/-
# Late replies and detached adapters

The proxy for an adapter and the adapter's state are asked for one after the other, and
neither reply says which attachment it was asked for.  The client is attached coherently
exactly as long as these replies come while they still fit.
-/
import NfcAdapter.Adapter
import NfcAdapter.TagReadShown

namespace NfcAdapter

open Runs

namespace AdapterState

/-! ## Coherence -/

/-- The client's adapter is a proxy for exactly the current adapter path. -/
def OnAdapter (s : AdapterState) : Prop :=
  s.client.adapterPath ≠ none ∧ s.client.adapter.map AdapterProxy.path = s.client.adapterPath

instance (s : AdapterState) : Decidable s.OnAdapter := by
  unfold OnAdapter
  infer_instance

/-- An adapter is reported only while the client holds its proxy, and while there is no
adapter no tag is current. -/
structure Attached (s : AdapterState) : Prop where
  available : s.client.available = true → s.OnAdapter
  tag : s.client.adapterPath = none → s.client.tag.client.tagPath = none

theorem attached_init : Attached .init := ⟨(fun h => nomatch h), fun _ => rfl⟩

/-- An available adapter is not replaced by one at another path. -/
def Keeps (s : AdapterState) (path : Option String) : Prop :=
  s.client.available = true → path ≠ none → path = s.client.adapterPath

instance (s : AdapterState) (path : Option String) : Decidable (s.Keeps path) := by
  unfold Keeps
  infer_instance

end AdapterState

/-- The event finds the attachment it was made for: an adapter path gives way only while the
adapter is not available, a proxy that is made while the adapter is available and the state of
an adapter are for the current adapter path, and tags are reported only while there is one. -/
def AdapterEvent.Timely (s : AdapterState) : AdapterEvent → Prop
  | .adaptersChanged adapters => s.Keeps adapters.head?
  | .adapterSignal adapter (.tags tags) =>
    s.Alive adapter → s.client.adapterPath = none → tags = []
  | .complete i reply =>
    match s.calls[i]?, reply with
    | some .daemonGetAll4, .daemon _ adapters => s.Keeps adapters.head?
    | some (.adapterProxy path), .proxy =>
      s.client.available = true → s.client.adapterPath = some path
    | some (.adapterGetAll4 _), .adapter _ => s.OnAdapter
    | _, _ => True
  | _ => True

instance (s : AdapterState) (e : AdapterEvent) : Decidable (e.Timely s) := by
  unfold AdapterEvent.Timely
  split
  · infer_instance
  · infer_instance
  · split <;> infer_instance
  · infer_instance

/-! ## One step -/

namespace AdapterState

/-- What neither the adapter, its path, its availability nor the tag depends on. -/
theorem Attached.congr {s s' : AdapterState} (h : s.Attached)
    (hadapter : s'.client.adapter = s.client.adapter)
    (hpath : s'.client.adapterPath = s.client.adapterPath)
    (havailable : s'.client.available = s.client.available)
    (htag : s'.client.tag.client.tagPath = s.client.tag.client.tagPath) : s'.Attached := by
  refine ⟨fun hav => ?_, fun hnone => ?_⟩
  · rw [OnAdapter, hpath, hadapter]
    exact h.available (havailable.symm.trans hav)
  · rw [htag]
    exact h.tag (hpath.symm.trans hnone)

/-- **Attaching.** -/
theorem attached_attachAdapter {s : AdapterState} (h : s.Attached) (path : Option String) :
    (s.attachAdapter path).Attached ↔ s.Keeps path := by
  cases path with
  | none =>
    refine iff_of_true ⟨(fun hav => nomatch hav), fun _ => ?_⟩ fun _ hne => absurd rfl hne
    exact setCurrentTag_tagPath _ _
  | some path =>
    simp only [attachAdapter]
    by_cases hpath : s.client.adapterPath = some path
    · rw [if_pos hpath]
      exact iff_of_true h fun _ _ => hpath.symm
    · rw [if_neg hpath]
      constructor
      · intro hatt hav _
        -- the old proxy would have to be one for the new path
        have hold := (h.available hav).2
        have hnew : s.client.adapter.map AdapterProxy.path = some path := (hatt.available hav).2
        rw [← hnew, hold]
      · intro hkeeps
        refine ⟨fun hav => ?_, fun hnone => nomatch hnone⟩
        exact absurd (hkeeps hav (by simp)).symm hpath

/-- **A proxy has been made.** -/
theorem attached_adapterProxyReady {s : AdapterState} (h : s.Attached) (path : String) :
    (s.adapterProxyReady path .proxy).Attached ↔
      (s.client.available = true → s.client.adapterPath = some path) := by
  constructor
  · intro hatt hav
    exact (hatt.available hav).2.symm
  · intro hpath
    refine ⟨fun hav => ?_, h.tag⟩
    have heq : s.client.adapterPath = some path := hpath hav
    refine ⟨?_, heq.symm⟩
    show s.client.adapterPath ≠ none
    rw [heq]
    exact fun hnone => nomatch hnone

/-- **The state of an adapter has arrived.** -/
theorem attached_adapterGetAllReady {s : AdapterState} (info : AdapterInfo) :
    (s.adapterGetAllReady (.adapter info)).Attached ↔ s.OnAdapter := by
  constructor
  · intro hatt
    exact hatt.available rfl
  · intro hon
    exact ⟨fun _ => hon, fun hnone => absurd hnone hon.1⟩

end AdapterState

open AdapterState

/-- **One step** leaves the client attached coherently exactly when it is in time. -/
theorem attached_adapterStep (glib : GlibText) {s : AdapterState} (h : s.Attached)
    (e : AdapterEvent) : (adapterStep glib s e).Attached ↔ e.Timely s := by
  cases e with
  | daemonAppeared => exact iff_of_true (h.congr rfl rfl rfl rfl) trivial
  | daemonVanished =>
    refine iff_of_true ?_ trivial
    exact ⟨(fun hav => nomatch hav), fun _ => setCurrentTag_tagPath _ _⟩
  | adaptersChanged adapters => exact attached_attachAdapter h adapters.head?
  | adapterSignal adapter signal =>
    unfold adapterStep
    simp only
    by_cases halive : s.Alive adapter
    · -- an old proxy that is still alive sets the tag like the current one
      rw [if_pos halive]
      cases signal with
      | tags tags =>
        constructor
        · intro hatt _ hnone
          have htag : (setCurrentTag s.client.tag tags.head?).client.tagPath = none :=
            hatt.tag hnone
          rw [setCurrentTag_tagPath] at htag
          exact List.head?_eq_none_iff.mp htag
        · intro htags
          refine ⟨h.available, fun hnone => ?_⟩
          rw [htags halive hnone]
          exact setCurrentTag_tagPath _ _
      | _ => exact iff_of_true (h.congr rfl rfl rfl rfl) trivial
    · rw [if_neg halive]
      refine iff_of_true h ?_
      cases signal with
      | tags tags => exact fun hcontra => absurd hcontra halive
      | _ => trivial
  | settingsAppeared => exact iff_of_true (h.congr rfl rfl rfl rfl) trivial
  | settingsVanished => exact iff_of_true (h.congr rfl rfl rfl rfl) trivial
  | settingsEnabledChanged enabled => exact iff_of_true (h.congr rfl rfl rfl rfl) trivial
  | complete i reply =>
    cases hi : s.calls[i]? with
    | none => simpa [adapterStep, AdapterEvent.Timely, hi] using h
    | some call =>
      -- the reply is judged by what is attached now, not by what it was asked for
      have h' : ({ s with calls := s.calls.eraseIdx i } : AdapterState).Attached :=
        h.congr rfl rfl rfl rfl
      simp only [adapterStep, AdapterEvent.Timely, hi]
      cases call with
      | daemonProxy => cases reply <;> exact iff_of_true (h.congr rfl rfl rfl rfl) trivial
      | daemonGetAll4 =>
        cases reply with
        | daemon version adapters =>
          exact attached_attachAdapter (s := { s with
              client := { s.client with daemonVersion := version }
              calls := s.calls.eraseIdx i }) (h.congr rfl rfl rfl rfl) adapters.head?
        | _ => exact iff_of_true h' trivial
      | adapterProxy path =>
        cases reply with
        | proxy => exact attached_adapterProxyReady h' path
        | _ => exact iff_of_true h' trivial
      | adapterGetAll4 adapter =>
        cases reply with
        | adapter info =>
          exact attached_adapterGetAllReady (s := { s with calls := s.calls.eraseIdx i }) info
        | _ => exact iff_of_true h' trivial
      | settingsProxy => cases reply <;> exact iff_of_true (h.congr rfl rfl rfl rfl) trivial
      | settingsGetAll => cases reply <;> exact iff_of_true (h.congr rfl rfl rfl rfl) trivial
  | tagComplete i reply =>
    exact iff_of_true (h.congr rfl rfl rfl (tagStep_complete_tagPath glib _ i reply)) trivial

/-! ## Every run -/

/-- **No late reply brings a detached adapter back**: in every state of a run the client is
attached coherently, exactly when every event of the run is in time. -/
theorem attached_throughout_iff (glib : GlibText) (es : List AdapterEvent) :
    Along (fun s e => (adapterStep glib s e).Attached) (adapterStep glib) .init es ↔
      Along AdapterEvent.Timely (adapterStep glib) .init es :=
  along_iff_along AdapterState.Attached (fun _ e h => attached_adapterStep glib h e)
    attached_init es

/-- nfcd and its adapter appear; the adapter is withdrawn while its proxy is being made. -/
def withdrawnAdapter : List AdapterEvent :=
  [.daemonAppeared, .complete 0 .proxy, .complete 0 (.daemon 0x10200 ["/nfc0"]),
    .adaptersChanged [], .complete 0 .proxy,
    .complete 0 (.adapter ⟨true, true, 7, 2, true, ["/nfc0/tag0"], 7⟩)]

/-- The late replies make the adapter available and its tag current without an adapter path. -/
theorem late_reply_resurrects :
    ¬ (∀ (glib : GlibText) (es : List AdapterEvent),
      (run (adapterStep glib) .init es).Attached) := by
  intro h
  have hafter := h asciiGlib withdrawnAdapter
  have hav : (run (adapterStep asciiGlib) .init withdrawnAdapter).client.available = true := by
    decide +kernel
  have hpath : (run (adapterStep asciiGlib) .init withdrawnAdapter).client.adapterPath = none := by
    decide +kernel
  exact (hafter.available hav).1 hpath

end NfcAdapter
