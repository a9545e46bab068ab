import Kaya.SecureSend.Steps

/-!
# Packages that may be downloaded once

`authorised_download` reads the download count and `mark_download` writes **what it has read plus
one**; the content is read and decrypted in between. Nothing keeps two downloads of a package apart
there, so both may be authorised on a count of zero, both send the content, and the count ends at
one: `two_downloads`.

`one_download` is what holds: in every run in which each download commits on the count that is still
stored, a package of this kind is sent at most once, and the count is the number of downloads sent.
-/

namespace Kaya.SecureSend

open Option
open Kaya.HA (DateTime seconds)

/-- Every download commits on the count it has read. -/
def countsFresh (s : Gateway) : Event → Bool
  | .next i =>
    match s.handlers i with
    | some ⟨p, some row, .marking _ _⟩ =>
      (s.packages p).all fun stored ↦ stored.downloadCount = row.downloadCount
    | _ => true
  | _ => true

/-! ### The count -/

section Count

variable {s : Gateway} {i p : ℕ} {h : Handler} {row : SecureSendPackage}

/-- The handler is about to commit a download. -/
def Marks (h : Handler) : Prop :=
  ∃ seen now loaded, h.flow = .marking seen now ∧ h.row = some loaded

theorem advance_returned (hm : ¬ Marks h) : (advance s i h).returned = s.returned := by
  obtain ⟨p, row, flow⟩ := h
  cases flow with
  | marking seen now =>
    cases row with
    | none => rfl
    | some row => exact absurd ⟨seen, now, row, rfl, rfl⟩ hm
  | _ => cases row <;> simp only [advance] <;> (repeat' split) <;> rfl

theorem writer_downloadCount (hm : ¬ Marks h) (stored : SecureSendPackage) :
    (writer s h stored).downloadCount = stored.downloadCount := by
  obtain ⟨p, row, flow⟩ := h
  cases flow with
  | marking seen now =>
    cases row with
    | none => rfl
    | some row => exact absurd ⟨seen, now, row, rfl, rfl⟩ hm
  | recipient cookie =>
    cases row with
    | none => rfl
    | some row =>
      simp only [writer]
      split
      · rfl
      · rfl
  | _ => cases row <;> rfl

/-- The count of a package is the number of downloads sent, at most one where only one is allowed,
and a download that has been authorised on such a package has read zero. -/
structure DownloadInvariant (s : Gateway) : Prop where
  rows : RowInvariant s
  counted : ∀ p row, s.packages p = some row → row.downloadCount = s.returned.count p
  absent : ∀ p, s.packages p = none → s.returned.count p = 0
  once : ∀ p row, s.packages p = some row → row.oneDownloadOnly = true → row.downloadCount ≤ 1
  checked : ∀ i h row, s.handlers i = some h → h.row = some row →
    h.flow = .reading ∨ (∃ seen now, h.flow = .marking seen now) → row.oneDownloadOnly = true →
      row.downloadCount = 0

section

variable (hs : DownloadInvariant s)

include hs

/-- A step that sends nothing and counts nothing. -/
theorem DownloadInvariant.of_packages {s' : Gateway}
    (hrows : RowInvariant s') (hpackages : s'.packages = s.packages)
    (hreturned : s'.returned = s.returned)
    (hchecked : ∀ i h row, s'.handlers i = some h → h.row = some row →
      h.flow = .reading ∨ (∃ seen now, h.flow = .marking seen now) → row.oneDownloadOnly = true →
        row.downloadCount = 0) : DownloadInvariant s' where
  rows := hrows
  counted p row hrow := hreturned ▸ hs.counted p row (hpackages ▸ hrow)
  absent p hrow := hreturned ▸ hs.absent p (hpackages ▸ hrow)
  once p row hrow := hs.once p row (hpackages ▸ hrow)
  checked := hchecked

/-- Handlers after a step of one of them: authorised on zero. -/
theorem DownloadInvariant.advance_checked (hh : s.handlers i = some h)
    {j : ℕ} {k : Handler} (hk : (advance s i h).handlers j = some k) {row : SecureSendPackage}
    (hrow : k.row = some row) (hflow : k.flow = .reading ∨ ∃ seen now, k.flow = .marking seen now)
    (hone : row.oneDownloadOnly = true) : row.downloadCount = 0 := by
  rcases advance_handler_cases hk with ⟨rfl, hf⟩ | ⟨-, hk'⟩
  · rcases hflow with hreading | ⟨seen, now, hmarking⟩
    · obtain ⟨-, hcount⟩ := hf.reading hreading row hrow
      by_contra hne
      exact hcount ⟨hone, Nat.one_le_iff_ne_zero.2 hne⟩
    · obtain ⟨hreading, hkept⟩ := hf.marking seen now hmarking
      exact hs.checked j h row hh (hkept.trans hrow) (.inl hreading) hone
  · exact hs.checked j k row hk' hrow hflow hone

/-- A step of a handler that commits no download. -/
theorem DownloadInvariant.advance (hh : s.handlers i = some h)
    (hm : ¬ Marks h) : DownloadInvariant (advance s i h) where
  rows := hs.rows.advance hh
  counted p row hrow := by
    rw [advance_returned hm]
    obtain ⟨old, hold, ⟨rfl, rfl⟩ | ⟨-, rfl⟩⟩ := advance_row_cases hrow
    · rw [writer_downloadCount hm]
      exact hs.counted _ old hold
    · exact hs.counted p row hold
  absent p hrow := by
    rw [advance_returned hm]
    cases hold : s.packages p with
    | none => exact hs.absent p hold
    | some old => exact nomatch hrow.symm.trans (advance_row hold)
  once p row hrow hone := by
    obtain ⟨old, hold, ⟨rfl, rfl⟩ | ⟨-, rfl⟩⟩ := advance_row_cases hrow
    · rw [writer_downloadCount hm]
      exact hs.once _ old hold ((writer_later old).oneDownloadOnly ▸ hone)
    · exact hs.once p row hold hone
  checked _ _ _ hk hrow hflow hone := hs.advance_checked hh hk hrow hflow hone

/-- A download that commits on the count that is stored. -/
theorem DownloadInvariant.mark {seen : Option (ℕ → Bool)}
    {now : DateTime} {loaded : SecureSendPackage}
    (hh : s.handlers i = some ⟨p, some loaded, .marking seen now⟩)
    (hfresh : ∀ stored, s.packages p = some stored → stored.downloadCount = loaded.downloadCount) :
    DownloadInvariant (SecureSend.advance s i ⟨p, some loaded, .marking seen now⟩) := by
  have hreturned : (SecureSend.advance s i ⟨p, some loaded, .marking seen now⟩).returned =
      p :: s.returned := rfl
  obtain ⟨stored, hsto, hlater⟩ := hs.rows.instances i _ hh
  replace hsto : s.packages p = some stored := hsto
  refine ⟨hs.rows.advance hh, fun q row hrow ↦ ?_, fun q hrow ↦ ?_, fun q row hrow hone ↦ ?_,
    fun _ _ _ hk hrow hflow hone ↦ hs.advance_checked hh hk hrow hflow hone⟩
  · rw [hreturned]
    obtain ⟨old, hold, ⟨hq, rfl⟩ | ⟨hq, rfl⟩⟩ := advance_row_cases hrow
    · obtain rfl : q = p := hq
      show loaded.downloadCount + 1 = (q :: s.returned).count q
      rw [List.count_cons_self, ← hs.counted q old hold, hfresh old hold]
    · rw [List.count_cons_of_ne (Ne.symm hq)]
      exact hs.counted q row hold
  · cases hold : s.packages q with
    | none =>
      have hne : p ≠ q := by
        rintro rfl
        exact nomatch hsto.symm.trans hold
      rw [hreturned, List.count_cons_of_ne hne]
      exact hs.absent q hold
    | some old => exact nomatch hrow.symm.trans (advance_row hold)
  · obtain ⟨old, hold, ⟨hq, rfl⟩ | ⟨-, rfl⟩⟩ := advance_row_cases hrow
    · obtain rfl : q = p := hq
      obtain rfl := some.inj (hsto.symm.trans hold)
      have hloaded : loaded.oneDownloadOnly = true :=
        (hlater loaded rfl).oneDownloadOnly.symm.trans
          ((writer_later stored).oneDownloadOnly.symm.trans hone)
      have hzero := hs.checked i _ loaded hh rfl (.inr ⟨seen, now, rfl⟩) hloaded
      show loaded.downloadCount + 1 ≤ 1
      omega
    · exact hs.once q row hold hone

/-- A step that counts on the stored row keeps it. -/
theorem DownloadInvariant.move {s' : Gateway} {e : Event}
    (hmove : GatewayMove s e s') (hok : countsFresh s e = true) : DownloadInvariant s' := by
  have hrows := hs.rows.move hmove
  cases hmove with
  | kept => exact hs
  | ticked _ => exact hs.of_packages hrows rfl rfl hs.checked
  | @created p new hnew _ hcount =>
    refine ⟨hrows, fun q row hrow ↦ ?_, fun q hrow ↦ ?_, fun q row hrow hone ↦ ?_, hs.checked⟩
    · rcases update_eq_some_iff.1 hrow with ⟨rfl, hrow'⟩ | ⟨-, hrow'⟩
      · rw [← some.inj hrow', hcount]
        exact (hs.absent q hnew).symm
      · exact hs.counted q row hrow'
    · refine hs.absent q ?_
      by_cases hq : q = p
      · exact hq ▸ hnew
      · exact (Function.update_of_ne hq _ _).symm.trans hrow
    · rcases update_eq_some_iff.1 hrow with ⟨rfl, hrow'⟩ | ⟨-, hrow'⟩
      · rw [← some.inj hrow', hcount]
        exact Nat.zero_le 1
      · exact hs.once q row hrow' hone
  | begun _ _ hk =>
    refine hs.of_packages hrows rfl rfl fun j h row hj hrow hflow hone ↦ ?_
    rcases update_eq_some_iff.1 hj with ⟨-, hj'⟩ | ⟨-, hj'⟩
    · obtain rfl := some.inj hj'
      exact hflow.elim (absurd · hk.reading) fun ⟨_, _, h⟩ ↦ absurd h (hk.marking _ _)
    · exact hs.checked j h row hj' hrow hflow hone
  | @advanced i h he hh =>
    by_cases hm : Marks h
    · obtain ⟨p, row, flow⟩ := h
      obtain ⟨seen, now, loaded, rfl, rfl⟩ := hm
      refine hs.mark hh fun stored hsto ↦ ?_
      simpa only [he, countsFresh, hh, hsto, all_some, decide_eq_true_eq] using hok
    · exact hs.advance hh hm
  | failed _ _ _ =>
    exact hs.of_packages hrows rfl rfl fun j k row hk ↦ hs.checked j k row (of_update_none hk).2

end

theorem GatewayInitial.downloads (hs : GatewayInitial s) : DownloadInvariant s where
  rows := hs.rows
  counted p _ hrow := nomatch (hs.packages p).symm.trans hrow
  absent p _ := by rw [hs.returned, List.count_nil]
  once p _ hrow := nomatch (hs.packages p).symm.trans hrow
  checked i _ _ hh := nomatch (hs.handlers i).symm.trans hh

theorem downloadInvariant (hs : gatewayMachine.ReachableBy (fun s e ↦ countsFresh s e = true) s) :
    DownloadInvariant s :=
  hs.invariant (fun _ ↦ GatewayInitial.downloads) fun s e hs ↦ hs.move (gatewayStep_cases s e)

/-- What has been sent counts as downloaded. -/
def SentCounted (s : Gateway) : Prop :=
  RowInvariant s ∧ ∀ p ∈ s.returned, ∃ row, s.packages p = some row ∧ 1 ≤ row.downloadCount

theorem SentCounted.step (hs : SentCounted s) (e : Event) : SentCounted (gatewayStep s e) := by
  have hmove := gatewayStep_cases s e
  generalize gatewayStep s e = s' at hmove
  refine ⟨hs.1.move hmove, fun q hq ↦ ?_⟩
  by_cases hold : q ∈ s.returned
  · obtain ⟨row, hrow, hcount⟩ := hs.2 q hold
    obtain ⟨row', hrow', hlater⟩ := hmove.grows q row hrow
    exact ⟨row', hrow', hlater.downloaded hcount⟩
  cases hmove with
  | @advanced i h _ hh =>
    by_cases hm : Marks h
    · obtain ⟨p, row, flow⟩ := h
      obtain ⟨seen, now, loaded, rfl, rfl⟩ := hm
      obtain rfl := (List.mem_cons.1 hq).resolve_right hold
      obtain ⟨stored, hsto, -⟩ := hs.1.instances i _ hh
      exact ⟨_, (advance_row hsto).trans (congrArg some (if_pos rfl)), Nat.le_add_left 1 _⟩
    · exact absurd (advance_returned hm ▸ hq) hold
  | _ => exact absurd hq hold

/-- A download of the package is counted; if there may be but one, no other is authorised. -/
def Counted (s : Gateway) (p : ℕ) : Prop :=
  ∃ row, s.packages p = some row ∧ 1 ≤ row.downloadCount ∧ (row.oneDownloadOnly = true →
    ∀ i token csrf loaded, (advance s i ⟨p, loaded, .authorising token csrf⟩).handlers i = none)

/-- **What has been sent is counted**, in every run, whatever downloads overlap. -/
theorem sent_counted (hs : gatewayMachine.Reachable s) (hp : p ∈ s.returned) : Counted s p := by
  obtain ⟨-, hsent⟩ := hs.invariant (P := SentCounted)
    (fun s (hs : GatewayInitial s) ↦ ⟨hs.rows, by simp [hs.returned]⟩) fun _ e hs ↦ hs.step e
  obtain ⟨row, hrow, hcount⟩ := hsent p hp
  refine ⟨row, hrow, hcount, fun hone _ token _ _ ↦ ?_⟩
  cases hsession : s.sessions token <;> simp [advance, hrow, hsession, hone, hcount]

end Count

/-- **While downloads commit on the count that is stored, a package that may be downloaded once is
sent at most once**, and the count is the number of downloads sent. -/
theorem one_download {s : Gateway} {p : ℕ} {row : SecureSendPackage}
    (hs : gatewayMachine.ReachableBy (fun s e ↦ countsFresh s e = true) s)
    (hrow : s.packages p = some row) (hone : row.oneDownloadOnly = true) :
    s.returned.count p ≤ 1 ∧ row.downloadCount = s.returned.count p := by
  have hcounted := (downloadInvariant hs).counted p row hrow
  exact ⟨hcounted ▸ (downloadInvariant hs).once p row hrow hone, hcounted⟩

/-! ### Two downloads at once -/

section Sample

/-- A package that may be downloaded once, and its recipient's unlock by handler 0. -/
def unlockedPackage : List Event :=
  [.create 0 (seconds 3600) true "314159" "correct horse",
    .unlock 0 0 "192.0.2.1" "314159" "correct horse", .next 0, .next 0, .next 0, .next 0]

/-- The steps of a download up to the content. -/
def authorisedDownload (i : ℕ) : List Event :=
  [.download i 0 (some 0) (some 0), .next i, .next i, .next i]

/-- The steps that end it. -/
def markedDownload (i : ℕ) : List Event := [.next i, .next i]

/-- One download, and a request for another that is refused. -/
def singleDownload : List Event :=
  unlockedPackage ++ authorisedDownload 1 ++ markedDownload 1 ++ authorisedDownload 2

/-- Two downloads that are authorised before either of them ends. -/
def doubleDownload : List Event :=
  unlockedPackage ++ authorisedDownload 1 ++ authorisedDownload 2 ++ markedDownload 1 ++
    markedDownload 2

/-- The row of the package after some events. -/
def packageAfter (es : List Event) : Option SecureSendPackage :=
  (gatewayMachine.run emptyGateway es).packages 0

theorem one_download_single :
    (gatewayMachine.run emptyGateway singleDownload).returned.count 0 ≤ 1 ∧
      ((packageAfter singleDownload).get (by decide +kernel)).downloadCount =
        (gatewayMachine.run emptyGateway singleDownload).returned.count 0 :=
  one_download (.run (.start emptyGateway_initial) (by decide +kernel))
    (some_get _).symm (by decide +kernel)

theorem sent_counted_single : Counted (gatewayMachine.run emptyGateway singleDownload) 0 :=
  sent_counted (.run _ (.start emptyGateway_initial)) (by decide +kernel)

/-- **Two downloads are sent, and the count is one.** -/
theorem two_downloads :
    ¬ ∀ (s : Gateway) (p : ℕ) (row : SecureSendPackage), gatewayMachine.Reachable s →
      s.packages p = some row → row.oneDownloadOnly = true →
        s.returned.count p ≤ 1 ∧ row.downloadCount = s.returned.count p := by
  intro hall
  have hrun := hall (gatewayMachine.run emptyGateway doubleDownload) 0
    ((packageAfter doubleDownload).get (by decide +kernel))
    (.run doubleDownload (.start emptyGateway_initial)) (some_get _).symm (by decide +kernel)
  exact absurd hrun.1 (by decide +kernel)

end Sample

end Kaya.SecureSend
