/-
# What getStatus and getTagInfo report

After nfcd or its adapter has gone, the replies still carry what `attach_adapter` does not
reset; and the status last pushed to subscribers is the status a direct call would return,
except after the handlers that change the adapter path or nfcd's version without telling
them.
-/
import NfcAdapter.Adapter
import NfcAdapter.TagReadShown

namespace NfcAdapter

open Json (text text_injective Value Object)
open Runs

/-! ## The members of the replies -/

section Members

variable (client : NfcdClient)

@[simp] theorem buildStatus_available :
    (buildStatus client).get? "available" = some (.boolean client.available) := by
  simp [buildStatus]

@[simp] theorem buildStatus_powered :
    (buildStatus client).get? "powered" = some (.boolean client.powered) := by
  simp [buildStatus]

@[simp] theorem buildStatus_present :
    (buildStatus client).get? "present" = some (.boolean client.present) := by
  simp [buildStatus]

@[simp] theorem buildStatus_daemonVersion :
    (buildStatus client).get? "daemonVersion" = some (.number client.daemonVersion) := by
  simp [buildStatus]

@[simp] theorem buildStatus_adapterPath :
    (buildStatus client).get? "adapterPath"
      = client.adapterPath.map fun path => .string (text path) := by
  simp [buildStatus]

@[simp] theorem buildTagInfo_present :
    (buildTagInfo client).get? "present" = some (.boolean client.present) := by
  simp [buildTagInfo]

@[simp] theorem buildTagInfo_tag :
    (buildTagInfo client).get? "tag" = client.tag.client.tagJson.map .object := by
  simp [buildTagInfo]

end Members

/-- Equal statuses carry the same adapter path and version. -/
theorem path_version_of_buildStatus {client client' : NfcdClient}
    (h : buildStatus client = buildStatus client') :
    client.adapterPath = client'.adapterPath ∧ client.daemonVersion = client'.daemonVersion := by
  have hpath := congrArg (Object.get? · "adapterPath") h
  have hversion := congrArg (Object.get? · "daemonVersion") h
  simp only [buildStatus_adapterPath, buildStatus_daemonVersion, Option.some.injEq,
    Value.number.injEq] at hpath hversion
  refine ⟨?_, hversion⟩
  refine Option.map_injective ?_ hpath
  intro a b hab
  exact text_injective (Value.string.inj hab)

/-! ## When nfcd or its adapter is gone -/

namespace AdapterState

/-- The replies say that there is nothing. -/
structure ReportsNothing (s : AdapterState) : Prop where
  available : (buildStatus s.client).get? "available" = some (.boolean false)
  powered : (buildStatus s.client).get? "powered" = some (.boolean false)
  present : (buildStatus s.client).get? "present" = some (.boolean false)
  adapterPath : (buildStatus s.client).get? "adapterPath" = none
  tagPresent : (buildTagInfo s.client).get? "present" = some (.boolean false)
  tag : (buildTagInfo s.client).get? "tag" = none

/-- What `attach_adapter` resets when the adapter goes, and what it leaves. -/
theorem reportsNothing_attachAdapter_none {s : AdapterState} (h : Shown s.client.tag) :
    (s.attachAdapter none).ReportsNothing ↔
      s.client.powered = false ∧ s.client.present = false := by
  have htag : (setCurrentTag s.client.tag none).client.tagJson = none :=
    (h.setCurrentTag none).json (setCurrentTag_tagPath _ _)
  constructor
  · intro hnothing
    have hpowered := hnothing.powered
    have hpresent := hnothing.present
    simp only [buildStatus_powered, buildStatus_present, Option.some.injEq,
      Value.boolean.injEq] at hpowered hpresent
    exact ⟨hpowered, hpresent⟩
  · rintro ⟨hpowered, hpresent⟩
    constructor <;>
      simp [attachAdapter, updateTags, notifyState, hpowered, hpresent, htag]

/-- No handler shows information of a tag that is not current. -/
theorem shown_adapterStep (glib : GlibText) {s : AdapterState} (h : Shown s.client.tag)
    (e : AdapterEvent) : Shown (adapterStep glib s e).client.tag := by
  have hattach : ∀ (t : AdapterState) (path : Option String), t.client.tag = s.client.tag →
      Shown (t.attachAdapter path).client.tag := by
    intro t path ht
    cases path with
    | none =>
      show Shown (setCurrentTag t.client.tag none)
      rw [ht]
      exact h.setCurrentTag none
    | some path =>
      simp only [attachAdapter]
      split
      · rw [ht]
        exact h
      · show Shown t.client.tag
        rw [ht]
        exact h
  cases e with
  | daemonAppeared => exact h
  | daemonVanished => exact h.setCurrentTag none
  | adaptersChanged adapters => exact hattach s adapters.head? rfl
  | adapterSignal adapter signal =>
    simp only [adapterStep]
    split
    · cases signal with
      | tags tags => exact h.setCurrentTag tags.head?
      | _ => exact h
    · exact h
  | settingsAppeared => exact h
  | settingsVanished => exact h
  | settingsEnabledChanged enabled => exact h
  | complete i reply =>
    simp only [adapterStep]
    split
    · exact h
    · next call hi =>
      cases call with
      | daemonGetAll4 =>
        cases reply with
        | daemon version adapters => exact hattach _ adapters.head? rfl
        | _ => exact h
      | adapterGetAll4 adapter =>
        cases reply with
        | adapter info => exact h.setCurrentTag info.tags.head?
        | _ => exact h
      | _ => cases reply <;> exact h
  | tagComplete i reply => exact h.complete glib i reply

end AdapterState

open AdapterState

/-- **Gone means gone**, except for what the adapter last said: in every state reached, nfcd
vanishing or reporting no adapter leaves nothing to report exactly when the adapter was not
powered and had no target present. -/
theorem reports_nothing_iff (glib : GlibText) (es : List AdapterEvent) :
    let s := run (adapterStep glib) .init es
    ((adapterStep glib s .daemonVanished).ReportsNothing ↔
      s.client.powered = false ∧ s.client.present = false) ∧
    ((adapterStep glib s (.adaptersChanged [])).ReportsNothing ↔
      s.client.powered = false ∧ s.client.present = false) := by
  intro s
  have hshown : Shown s.client.tag :=
    invariant (fun s : AdapterState => Shown s.client.tag)
      (fun _ e h => shown_adapterStep glib h e) shown_init es
  exact ⟨reportsNothing_attachAdapter_none (s := { s with
      client := { s.client with daemonVersion := 0 } }) hshown,
    reportsNothing_attachAdapter_none hshown⟩

/-- nfcd appears with an adapter that is powered and has a tag in its field. -/
def poweredAdapter : List AdapterEvent :=
  [.daemonAppeared, .complete 0 .proxy, .complete 0 (.daemon 0x10200 ["/nfc0"]),
    .complete 0 .proxy, .complete 0 (.adapter ⟨true, true, 7, 2, true, ["/nfc0/tag0"], 7⟩)]

/-- When nfcd crashes the adapter is still reported as powered, with a target present. -/
theorem vanished_still_powered :
    ¬ (∀ (glib : GlibText) (es : List AdapterEvent),
      (adapterStep glib (run (adapterStep glib) .init es) .daemonVanished).ReportsNothing ∧
      (adapterStep glib (run (adapterStep glib) .init es)
        (.adaptersChanged [])).ReportsNothing) := by
  intro h
  have hpowered := (h asciiGlib poweredAdapter).1.powered
  rw [buildStatus_powered] at hpowered
  have hstill : (adapterStep asciiGlib (run (adapterStep asciiGlib) .init poweredAdapter)
      .daemonVanished).client.powered = true := by decide +kernel
  rw [hstill] at hpowered
  cases hpowered

/-! ## What subscribers have been told -/

namespace AdapterState

/-- The status last pushed is the one a direct call returns. -/
def Synced (s : AdapterState) : Prop := s.pushed = buildStatus s.client

theorem synced_init : Synced .init := rfl

/-- Attaching, after nfcd's version has been noted. -/
theorem synced_attachAdapter {s : AdapterState} (h : s.Synced) (version : ℤ)
    (path : Option String) :
    ({ s with client := { s.client with daemonVersion := version } }.attachAdapter path).Synced ↔
      path = none ∨ path = s.client.adapterPath ∧ version = s.client.daemonVersion := by
  cases path with
  | none => exact iff_of_true rfl (Or.inl rfl)
  | some path =>
    simp only [attachAdapter]
    by_cases hpath : s.client.adapterPath = some path
    · rw [if_pos hpath]
      constructor
      · intro hsynced
        have heq : buildStatus s.client
            = buildStatus { s.client with daemonVersion := version } := h.symm.trans hsynced
        exact Or.inr ⟨hpath.symm, (path_version_of_buildStatus heq).2.symm⟩
      · rintro (hnone | ⟨-, rfl⟩)
        · cases hnone
        · exact h
    · rw [if_neg hpath]
      constructor
      · intro hsynced
        -- the new path is in the status and nobody has been told
        have heq : buildStatus s.client = buildStatus { s.client with
            daemonVersion := version, adapterPath := some path } := h.symm.trans hsynced
        exact absurd (path_version_of_buildStatus heq).1 hpath
      · rintro (hnone | ⟨hsame, -⟩)
        · cases hnone
        · exact absurd hsame.symm hpath

end AdapterState

/-- The handler changes nothing in the status that it does not push: a list of adapters is
empty or starts with the current adapter path, and comes with nfcd's version as it is. -/
def AdapterEvent.Told (s : AdapterState) : AdapterEvent → Prop
  | .adaptersChanged adapters => adapters.head? = none ∨ adapters.head? = s.client.adapterPath
  | .complete i reply =>
    match s.calls[i]?, reply with
    | some .daemonGetAll4, .daemon version adapters => adapters.head? = none ∨
      adapters.head? = s.client.adapterPath ∧ version = s.client.daemonVersion
    | _, _ => True
  | _ => True

/-- **One step.** -/
theorem synced_adapterStep (glib : GlibText) {s : AdapterState} (h : s.Synced)
    (e : AdapterEvent) : (adapterStep glib s e).Synced ↔ e.Told s := by
  cases e with
  | daemonAppeared => exact iff_of_true h trivial
  | daemonVanished => exact iff_of_true rfl trivial
  | adaptersChanged adapters =>
    have hattach := synced_attachAdapter h s.client.daemonVersion adapters.head?
    exact hattach.trans (or_congr_right (and_iff_left rfl))
  | adapterSignal adapter signal =>
    refine iff_of_true ?_ trivial
    simp only [adapterStep]
    split
    · cases signal with
      | tags tags => exact h
      | _ => rfl
    · exact h
  | settingsAppeared => exact iff_of_true h trivial
  | settingsVanished => exact iff_of_true rfl trivial
  | settingsEnabledChanged enabled => exact iff_of_true rfl trivial
  | complete i reply =>
    cases hi : s.calls[i]? with
    | none => simpa [adapterStep, AdapterEvent.Told, hi] using h
    | some call =>
      -- only the daemon's own GetAll4 changes the status without a push
      simp only [adapterStep, AdapterEvent.Told, hi]
      cases call with
      | daemonGetAll4 =>
        cases reply with
        | daemon version adapters =>
          exact synced_attachAdapter (s := { s with calls := s.calls.eraseIdx i }) h version
            adapters.head?
        | _ => exact iff_of_true h trivial
      | _ => cases reply <;> first | exact iff_of_true h trivial | exact iff_of_true rfl trivial
  | tagComplete i reply => exact iff_of_true h trivial

/-- **Subscribers miss no change**, after every handler of a run, exactly when every handler of
the run tells them what it changes. -/
theorem synced_throughout_iff (glib : GlibText) (es : List AdapterEvent) :
    Along (fun s e => (adapterStep glib s e).Synced) (adapterStep glib) .init es ↔
      Along AdapterEvent.Told (adapterStep glib) .init es :=
  along_iff_along AdapterState.Synced (fun _ e h => synced_adapterStep glib h e)
    synced_init es

/-- nfcd appears with an adapter, whose proxy is not there yet. -/
def adapterAppears : List AdapterEvent :=
  [.daemonAppeared, .complete 0 .proxy, .complete 0 (.daemon 0x10200 ["/nfc0"])]

/-- A direct call then returns nfcd's version and the adapter path; subscribers were told of
neither. -/
theorem new_adapter_is_not_told :
    ¬ (∀ (glib : GlibText) (es : List AdapterEvent),
      (run (adapterStep glib) .init es).Synced) := by
  intro h
  have hsynced := h asciiGlib adapterAppears
  have hversion := congrArg (Object.get? · "daemonVersion") hsynced
  rw [buildStatus_daemonVersion] at hversion
  have hnew : (run (adapterStep asciiGlib) .init adapterAppears).client.daemonVersion
      = 0x10200 := by decide +kernel
  have hold : (run (adapterStep asciiGlib) .init adapterAppears).pushed
      = buildStatus .create := rfl
  simp only [hnew, hold, buildStatus_daemonVersion, Option.some.injEq,
    Value.number.injEq] at hversion
  exact absurd hversion (by decide)

end NfcAdapter
