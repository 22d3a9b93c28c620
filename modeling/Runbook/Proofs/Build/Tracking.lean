import Mathlib.Data.Bool.Basic
import Runbook.Proofs.Build.History
import Runbook.Proofs.Build.Lineages
/-!
# What has happened to lineages

The chapters of a lineage are run one after the other. `Lineage.share` is what has happened to the
chapters of one lineage, and `Progress.Records` says what that is, given how far the lineage has
got: its finished chapters have begun and finished, in order, and the next one may have begun or
failed. `Schedule.Follows` says so of all lineages at once. Every step keeps it
(`Schedule.Follows.step`), since what happens to one lineage leaves the others as they are, and with
it the order of events that `Lawful` asks for.
-/

set_option autoImplicit false

namespace Runbook.Build

open Machine

variable {σ : Type}

/-! ### Counting -/

theorem countP_set_running {all : List Progress} {place : Nat} {before : Progress}
    (h : all[place]? = some before) (after : Progress) :
    (all.set place after).countP Progress.isRunning + before.isRunning.toNat =
      all.countP Progress.isRunning + after.isRunning.toNat := by
  induction all generalizing place with
  | nil => cases h
  | cons first rest ih =>
    cases place with
    | zero =>
      cases h
      rw [List.set_cons_zero, List.countP_cons, List.countP_cons]
      cases before.isRunning <;> cases after.isRunning <;> simp
    | succ place =>
      have hrest := ih h
      rw [List.set_cons_succ, List.countP_cons, List.countP_cons]
      omega

/-- The run of a chapter goes on or ends. -/
theorem isRunning_reaching (stage : Stage) (numbered : Numbered) (rest : List Numbered)
    (outputs : List Output) (act : ChapterRun) :
    (Progress.reaching ⟨stage, numbered :: rest, outputs⟩ act).isRunning.toNat +
      (endsOf (numbered :: rest) act).countP Event.isEnded = 1 := by
  obtain (error | markdown) | ⟨request, next⟩ := act <;> rfl

theorem countP_asksOf {schedule : Schedule} {request : Request} {counts : Event → Bool}
    (h : counts (.asked request) = false) : (schedule.asksOf request).countP counts = 0 :=
  List.countP_eq_zero.2 fun event hevent ↦ by
    rw [eq_asked_of_mem_asksOf hevent, h]
    exact Bool.false_ne_true

theorem countP_isBegan_endsOf (rest : List Numbered) (act : ChapterRun) :
    (endsOf rest act).countP Event.isBegan = 0 := by
  obtain _ | ⟨numbered, rest⟩ := rest
  · rfl
  · obtain (error | markdown) | ⟨request, next⟩ := act <;> rfl

/-! ### What has happened to a lineage -/

/-- An event is the beginning or the end of the run of a chapter of a lineage. -/
def Lineage.concerns (lineage : Lineage) (event : Event) : Bool :=
  event.chapter?.any fun index ↦ lineage.chapters.any fun numbered ↦ numbered.index = index

/-- What has happened to the chapters of a lineage. -/
def Lineage.share (lineage : Lineage) (past : List Event) : List Event :=
  past.filter lineage.concerns

/-- What has happened to finished chapters. -/
def accountOf (outputs : List Output) : List Event :=
  outputs.flatMap fun output ↦ [.began output.index, .finished output.index output.markdown]

/-- What has happened to the chapters of a lineage, given how far it has got. -/
inductive Progress.Records : Progress → List Event → Prop where
  | idle (rest : List Numbered) (outputs : List Output) :
    Records ⟨.idle, rest, outputs⟩ (accountOf outputs)
  | queued (numbered : Numbered) (rest : List Numbered) (outputs : List Output) :
    Records ⟨.queued, numbered :: rest, outputs⟩ (accountOf outputs)
  | running (request : Request) (next : request.Reply → ChapterRun) (numbered : Numbered)
    (rest : List Numbered) (outputs : List Output) :
    Records ⟨.running (.ask request next), numbered :: rest, outputs⟩
      (accountOf outputs ++ [.began numbered.index])
  | stopped (error : BuildError) (numbered : Numbered) (rest : List Numbered)
    (outputs : List Output) :
    Records ⟨.stopped, numbered :: rest, outputs⟩
      (accountOf outputs ++ [.began numbered.index, .failed numbered.index error])

/-- A finished chapter is known by its number and its path. -/
def Output.label (output : Output) : Nat × String := (output.index, output.path)

/-- A chapter is known by its number and its path. -/
def Numbered.label (numbered : Numbered) : Nat × String := (numbered.index, numbered.chapter.path)

/-- The chapters of a lineage are those that are finished and then those that are left. -/
def Lineage.SplitsInto (lineage : Lineage) (outputs : List Output) (rest : List Numbered) : Prop :=
  ∃ done, lineage.chapters = done ++ rest ∧ outputs.map Output.label = done.map Numbered.label

/-- How far a lineage has got agrees with its chapters and with what has happened to them. -/
structure Progress.Tracks (lineage : Lineage) (past : List Event) (progress : Progress) : Prop where
  splits : lineage.SplitsInto progress.outputs progress.rest
  records : progress.Records (lineage.share past)

theorem mem_accountOf_began {outputs : List Output} {index : Nat} :
    .began index ∈ accountOf outputs ↔ ∃ output ∈ outputs, output.index = index := by
  simp only [accountOf, List.mem_flatMap, List.mem_cons, List.not_mem_nil, or_false,
    Event.began.injEq, reduceCtorEq]
  exact exists_congr fun output ↦ and_congr_right fun _ ↦ eq_comm

theorem accountOf_append (outputs : List Output) (output : Output) :
    accountOf (outputs ++ [output]) =
      accountOf outputs ++ [.began output.index, .finished output.index output.markdown] := by
  rw [accountOf, List.flatMap_append]
  rfl

/-- Once a chapter has begun, what happens next is its end. -/
theorem Progress.records_reaching (stage : Stage) (numbered : Numbered) (rest : List Numbered)
    (outputs : List Output) (act : ChapterRun) :
    (Progress.reaching ⟨stage, numbered :: rest, outputs⟩ act).Records
      (accountOf outputs ++ [.began numbered.index] ++ endsOf (numbered :: rest) act) := by
  obtain (error | markdown) | ⟨request, next⟩ := act
  · rw [List.append_assoc]
    exact .stopped error numbered rest outputs
  · rw [List.append_assoc]
    have hidle := Records.idle rest (outputs ++ [⟨numbered.index, numbered.chapter.path, markdown⟩])
    rw [accountOf_append] at hidle
    exact hidle
  · have hends : endsOf (numbered :: rest) (.ask request next) = [] := rfl
    rw [hends, List.append_nil]
    exact .running request next numbered rest outputs

/-! ### Events of lineages -/

section Shares

variable {lineage : Lineage} {past events : List Event} {progress : Progress}

theorem Lineage.concerns_iff {event : Event} : lineage.concerns event = true ↔
    ∃ numbered ∈ lineage.chapters, event.chapter? = some numbered.index := by
  unfold Lineage.concerns
  cases event.chapter? with
  | none => exact iff_of_false Bool.false_ne_true nofun
  | some index =>
    rw [Option.any_some, List.any_eq_true]
    refine exists_congr fun numbered ↦ and_congr_right fun _ ↦ ?_
    rw [decide_eq_true_iff, Option.some_inj, eq_comm]

theorem Lineage.share_append_own (h : ∀ event ∈ events, lineage.concerns event = true) :
    lineage.share (past ++ events) = lineage.share past ++ events := by
  rw [share, List.filter_append, List.filter_eq_self.2 h]
  rfl

theorem Lineage.share_append_other (h : ∀ event ∈ events, lineage.concerns event = false) :
    lineage.share (past ++ events) = lineage.share past := by
  have hnone : events.filter lineage.concerns = [] :=
    List.filter_eq_nil_iff.2 fun event hevent ↦ Bool.not_eq_true _ ▸ h event hevent
  rw [share, List.filter_append, hnone, List.append_nil]
  rfl

theorem Lineage.mem_of_mem_share (lineage : Lineage) {event : Event}
    (h : event ∈ lineage.share past) : event ∈ past :=
  List.mem_of_mem_filter h

theorem chapter?_of_mem_endsOf {numbered : Numbered} {rest : List Numbered} {act : ChapterRun}
    {event : Event} (h : event ∈ endsOf (numbered :: rest) act) :
    event.chapter? = some numbered.index ∧ event.isEnded = true := by
  obtain (error | markdown) | ⟨request, next⟩ := act
  · rw [List.mem_singleton.1 h]
    exact ⟨rfl, rfl⟩
  · rw [List.mem_singleton.1 h]
    exact ⟨rfl, rfl⟩
  · cases h

/-- What happens to others leaves what has happened to a lineage. -/
theorem Progress.Tracks.of_share_eq (h : progress.Tracks lineage past)
    (hshare : lineage.share events = lineage.share past) : progress.Tracks lineage events := by
  refine ⟨h.splits, ?_⟩
  rw [hshare]
  exact h.records

/-- When the next chapter of a lineage has begun, how far it gets agrees with what happens. -/
theorem Progress.tracks_reaching {stage : Stage} {numbered : Numbered} {rest : List Numbered}
    {outputs : List Output} {act : ChapterRun}
    (hsplits : lineage.SplitsInto outputs (numbered :: rest))
    (hshare : lineage.share past =
      accountOf outputs ++ [.began numbered.index] ++ endsOf (numbered :: rest) act) :
    (Progress.reaching ⟨stage, numbered :: rest, outputs⟩ act).Tracks lineage past := by
  refine ⟨?_, hshare ▸ records_reaching stage numbered rest outputs act⟩
  obtain ⟨done, hdone, houtputs⟩ := hsplits
  obtain (error | markdown) | ⟨request, next⟩ := act
  · exact ⟨done, hdone, houtputs⟩
  · refine ⟨done ++ [numbered], ?_, ?_⟩
    · rw [List.append_assoc]
      exact hdone
    · change (outputs ++ [_]).map _ = _
      rw [List.map_append, List.map_append, houtputs]
      rfl
  · exact ⟨done, hdone, houtputs⟩

end Shares

/-! ### The order of events -/

/-- What has happened before a chapter begins or ends. It begins once, when the chapters before it
in its directory have finished; it ends once, after it has begun. -/
def Lawful (chapters : List Chapter) (before : List Event) : Event → Prop
  | .asked _ => True
  | .began index => .began index ∉ before ∧ ∃ chapter, chapters[index]? = some chapter ∧
    ∀ earlier < index, ∀ other, chapters[earlier]? = some other →
      Path.components other.workdir = Path.components chapter.workdir →
      ∃ markdown, .finished earlier markdown ∈ before
  | .finished index _ => .began index ∈ before ∧
    ∀ event ∈ before, event.isEnded = true → event.chapter? ≠ some index
  | .failed index _ => .began index ∈ before ∧
    ∀ event ∈ before, event.isEnded = true → event.chapter? ≠ some index

/-- All lineages have got as far as what has happened says, and that has happened in order. -/
structure Schedule.Follows (chapters : List Chapter) (past : List Event) (schedule : Schedule) :
    Prop where
  length_eq : schedule.lineages.length = (Build.lineages chapters).length
  tracks : ∀ (place : Nat) (lineage : Lineage) (progress : Progress),
    (Build.lineages chapters)[place]? = some lineage →
    schedule.lineages[place]? = some progress → progress.Tracks lineage past
  lawful : Along (Lawful chapters) past

section Follows

variable {chapters : List Chapter} {past events : List Event} {schedule after : Schedule}
  {runOf : Chapter → ChapterRun} {host : Host σ} {state next : σ} {place : Nat}
  {lineage : Lineage} {numbered : Numbered} {rest : List Numbered} {outputs : List Output}

/-- What has happened to a lineage whose next chapter has begun. -/
structure Begun (chapters : List Chapter) (lineage : Lineage) (numbered : Numbered)
    (rest : List Numbered) (outputs : List Output) (past : List Event) : Prop where
  mem : lineage ∈ lineages chapters
  splits : lineage.SplitsInto outputs (numbered :: rest)
  share_eq : lineage.share past = accountOf outputs ++ [.began numbered.index]

theorem Lineage.SplitsInto.mem (h : lineage.SplitsInto outputs (numbered :: rest)) :
    numbered ∈ lineage.chapters := by
  obtain ⟨done, hdone, -⟩ := h
  rw [hdone]
  exact List.mem_append_right _ List.mem_cons_self

/-- The numbers of the finished chapters of a lineage come before that of its next. -/
theorem Lineage.SplitsInto.index_lt (h : lineage.SplitsInto outputs (numbered :: rest))
    (hmem : lineage ∈ lineages chapters) : ∀ output ∈ outputs, output.index < numbered.index := by
  intro output houtput
  obtain ⟨done, hdone, houtputs⟩ := h
  have hpair : output.label ∈ done.map Numbered.label := houtputs ▸ List.mem_map_of_mem houtput
  obtain ⟨earlier, hearlier, hsame⟩ := List.mem_map.1 hpair
  have hordered := lineage_pairwise hmem
  rw [hdone] at hordered
  have hlt := (List.pairwise_append.1 hordered).2.2 earlier hearlier numbered List.mem_cons_self
  rw [← (Prod.mk.inj hsame).1]
  exact hlt

theorem Lineage.mem_share_of_mem {event : Event} (h : event ∈ past)
    (hchapter : event.chapter? = some numbered.index) (hmem : numbered ∈ lineage.chapters) :
    event ∈ lineage.share past :=
  List.mem_filter.2 ⟨h, concerns_iff.2 ⟨numbered, hmem, hchapter⟩⟩

/-- A lineage whose next chapter has begun has finished those before it in its directory, and
neither this chapter nor a later one has ended. -/
theorem Begun.lawful_endsOf (h : Begun chapters lineage numbered rest outputs past)
    (hlawful : Along (Lawful chapters) past) (act : ChapterRun) :
    Along (Lawful chapters) (past ++ endsOf (numbered :: rest) act) := by
  have hbegan : .began numbered.index ∈ past := by
    refine lineage.mem_of_mem_share ?_
    rw [h.share_eq]
    exact List.mem_append_right _ List.mem_cons_self
  have hrunning : ∀ event ∈ past, event.isEnded = true → event.chapter? ≠ some numbered.index := by
    intro event hevent hended hchapter
    have hshare := Lineage.mem_share_of_mem hevent hchapter h.splits.mem
    rw [h.share_eq] at hshare
    rcases List.mem_append.1 hshare with hshare | hshare
    · obtain ⟨output, houtput, hone⟩ := List.mem_flatMap.1 hshare
      have hlt := h.splits.index_lt h.mem output houtput
      rcases List.mem_cons.1 hone with rfl | hone
      · cases hended
      · rw [List.mem_singleton.1 hone] at hchapter
        exact hlt.ne (Option.some.inj hchapter)
    · rw [List.mem_singleton.1 hshare] at hended
      cases hended
  obtain (error | markdown) | ⟨request, next⟩ := act
  · exact hlawful.concat ⟨hbegan, hrunning⟩
  · exact hlawful.concat ⟨hbegan, hrunning⟩
  · rw [show endsOf (numbered :: rest) (.ask request next) = [] from rfl, List.append_nil]
    exact hlawful

/-- A chapter whose turn it is has not begun, and those before it in its directory have finished. -/
theorem lawful_began (hmem : lineage ∈ lineages chapters)
    (hsplits : lineage.SplitsInto outputs (numbered :: rest))
    (hshare : lineage.share past = accountOf outputs) :
    Lawful chapters past (.began numbered.index) := by
  have hbefore := hsplits.index_lt hmem
  have hin := hsplits.mem
  obtain ⟨done, hdone, houtputs⟩ := hsplits
  obtain ⟨hchapter, howns⟩ := (mem_lineage_iff hmem).1 hin
  refine ⟨fun hbegan ↦ ?_, numbered.chapter, hchapter, ?_⟩
  · have hshared := Lineage.mem_share_of_mem hbegan rfl hin
    rw [hshare] at hshared
    obtain ⟨output, houtput, hsame⟩ := mem_accountOf_began.1 hshared
    exact (hbefore output houtput).ne hsame
  · intro earlier hlt other hother hdirectory
    -- The earlier chapter is in the same lineage, and there it stands before this one.
    have hearlier : ⟨earlier, other⟩ ∈ lineage.chapters :=
      (mem_lineage_iff hmem).2 ⟨hother, hdirectory.trans howns⟩
    have hdoneMem : ⟨earlier, other⟩ ∈ done := by
      rw [hdone] at hearlier
      rcases List.mem_append.1 hearlier with hearlier | hearlier
      · exact hearlier
      have hordered := lineage_pairwise hmem
      rw [hdone] at hordered
      have hlater := (List.pairwise_cons.1 (List.pairwise_append.1 hordered).2.1).1
      rcases List.mem_cons.1 hearlier with rfl | hearlier
      · exact absurd hlt (lt_irrefl _)
      · exact absurd hlt (not_lt_of_gt (hlater _ hearlier))
    have hpair : (earlier, other.path) ∈ outputs.map Output.label :=
      houtputs ▸ List.mem_map_of_mem hdoneMem
    obtain ⟨output, houtput, hsame⟩ := List.mem_map.1 hpair
    obtain ⟨rfl, -⟩ := Prod.mk.inj hsame
    refine ⟨output.markdown, lineage.mem_of_mem_share ?_⟩
    rw [hshare]
    exact List.mem_flatMap.2 ⟨output, houtput, List.mem_cons_of_mem _ List.mem_cons_self⟩

/-- When one lineage goes on, the others are as far as they were. -/
theorem Schedule.Follows.set {progress : Progress} (h : schedule.Follows chapters past)
    (hlineage : (Build.lineages chapters)[place]? = some lineage)
    (hnumbered : numbered ∈ lineage.chapters)
    (hevents : ∀ event ∈ events, ∀ index, event.chapter? = some index → index = numbered.index)
    (htracks : progress.Tracks lineage (past ++ events))
    (hafter : after.lineages = schedule.lineages.set place progress)
    (hlawful : Along (Lawful chapters) (past ++ events)) :
    after.Follows chapters (past ++ events) := by
  refine ⟨?_, ?_, hlawful⟩
  · rw [hafter, List.length_set]
    exact h.length_eq
  · intro otherPlace other found hother hfound
    rw [hafter, List.getElem?_set] at hfound
    split at hfound
    · next hsame =>
      subst hsame
      obtain rfl : lineage = other := Option.some.inj (hlineage.symm.trans hother)
      split at hfound
      · cases hfound
        exact htracks
      · cases hfound
    · next hdiffer =>
      refine (h.tracks otherPlace other found hother hfound).of_share_eq ?_
      refine Lineage.share_append_other fun event hevent ↦ ?_
      refine Bool.eq_false_of_not_eq_true fun hown ↦ ?_
      obtain ⟨second, hsecond, hchapter⟩ := Lineage.concerns_iff.1 hown
      exact hdiffer (place_eq_of_index hlineage hother hnumbered hsecond
        (hevents event hevent second.index hchapter).symm)

theorem Schedule.Follows.exists_lineage {progress : Progress} (h : schedule.Follows chapters past)
    (hfound : schedule.lineages[place]? = some progress) :
    ∃ lineage, (Build.lineages chapters)[place]? = some lineage ∧ progress.Tracks lineage past := by
  obtain ⟨hplace, -⟩ := List.getElem?_eq_some_iff.1 hfound
  rw [h.length_eq] at hplace
  have hlineage := List.getElem?_eq_getElem hplace
  exact ⟨_, hlineage, h.tracks place _ progress hlineage hfound⟩

/-- When the next chapter of a lineage has begun and gets as far as an act, all lineages are as far
as what has happened says. -/
theorem Schedule.Follows.reaching {before : List Event} {stage : Stage}
    (h : schedule.Follows chapters past)
    (hlineage : (Build.lineages chapters)[place]? = some lineage)
    (hbegun : Begun chapters lineage numbered rest outputs (past ++ before))
    (hbefore : ∀ event ∈ before, ∀ index, event.chapter? = some index → index = numbered.index)
    (hlawful : Along (Lawful chapters) (past ++ before)) (act : ChapterRun)
    (hafter : after.lineages = schedule.lineages.set place
      (Progress.reaching ⟨stage, numbered :: rest, outputs⟩ act)) :
    after.Follows chapters (past ++ before ++ endsOf (numbered :: rest) act) := by
  have hin := hbegun.splits.mem
  have hends : ∀ event ∈ endsOf (numbered :: rest) act, event.chapter? = some numbered.index :=
    fun event hevent ↦ (chapter?_of_mem_endsOf hevent).1
  have hall := hbegun.lawful_endsOf hlawful act
  have hshare : lineage.share (past ++ before ++ endsOf (numbered :: rest) act) =
      accountOf outputs ++ [.began numbered.index] ++ endsOf (numbered :: rest) act := by
    rw [Lineage.share_append_own, hbegun.share_eq]
    exact fun event hevent ↦ Lineage.concerns_iff.2 ⟨numbered, hin, hends event hevent⟩
  rw [List.append_assoc] at hall hshare ⊢
  refine h.set hlineage hin (fun event hevent index hindex ↦ ?_)
    (Progress.tracks_reaching hbegun.splits hshare) hafter hall
  rcases List.mem_append.1 hevent with hevent | hevent
  · exact hbefore event hevent index hindex
  · exact Option.some.inj (hindex.symm.trans (hends event hevent))

theorem Schedule.lineages_reaching (schedule : Schedule) (place : Nat) (progress : Progress)
    (act : ChapterRun) : (schedule.reaching place progress act).lineages =
      schedule.lineages.set place (progress.reaching act) :=
  rfl

/-- Every step keeps what has happened in order. -/
theorem Schedule.Follows.step (h : schedule.Follows chapters past)
    (hsteps : schedule.Steps runOf host state events after next) :
    after.Follows chapters (past ++ events) := by
  cases hsteps with
  | giveUp hfailed hgoing =>
    rw [List.append_nil]
    exact ⟨h.length_eq, h.tracks, h.lawful⟩
  | @enqueue place numbered rest outputs hfound hgoing =>
    obtain ⟨lineage, hlineage, hsplits, hrecords⟩ := h.exists_lineage hfound
    have hqueued : Progress.Tracks lineage (past ++ []) ⟨.queued, numbered :: rest, outputs⟩ := by
      refine ⟨hsplits, ?_⟩
      rw [List.append_nil]
      generalize lineage.share past = share at hrecords ⊢
      cases hrecords
      exact .queued numbered rest outputs
    refine h.set hlineage hsplits.mem (fun _ hevent ↦ (List.not_mem_nil hevent).elim) hqueued rfl ?_
    rw [List.append_nil]
    exact h.lawful
  | @start place numbered rest outputs hfound hgoing hfree =>
    obtain ⟨lineage, hlineage, hsplits, hrecords⟩ := h.exists_lineage hfound
    have hshare : lineage.share past = accountOf outputs := by
      generalize lineage.share past = share at hrecords ⊢
      cases hrecords
      rfl
    have hmem := List.mem_of_getElem? hlineage
    have hin := hsplits.mem
    have hbegun : Begun chapters lineage numbered rest outputs
        (past ++ [.began numbered.index]) := by
      refine ⟨hmem, hsplits, ?_⟩
      rw [Lineage.share_append_own fun event hevent ↦ ?_, hshare]
      rw [List.mem_singleton.1 hevent]
      exact Lineage.concerns_iff.2 ⟨numbered, hin, rfl⟩
    rw [List.append_cons]
    refine h.reaching hlineage hbegun (fun event hevent index hindex ↦ ?_)
      (h.lawful.concat (lawful_began hmem hsplits hshare)) (runOf numbered.chapter)
      (lineages_reaching _ place _ _)
    rw [List.mem_singleton.1 hevent] at hindex
    exact (Option.some.inj hindex).symm
  | @answer place request next rest outputs hfound =>
    obtain ⟨lineage, hlineage, hsplits, hrecords⟩ := h.exists_lineage hfound
    obtain ⟨numbered, rest, rfl, hshare⟩ : ∃ numbered later, rest = numbered :: later ∧
        lineage.share past = accountOf outputs ++ [.began numbered.index] := by
      generalize lineage.share past = share at hrecords ⊢
      cases hrecords
      exact ⟨_, _, rfl, rfl⟩
    have hasks : ∀ event ∈ schedule.asksOf request, event = .asked request := fun event hevent ↦
      eq_asked_of_mem_asksOf hevent
    have hbegun : Begun chapters lineage numbered rest outputs
        (past ++ schedule.asksOf request) := by
      refine ⟨List.mem_of_getElem? hlineage, hsplits, ?_⟩
      rw [Lineage.share_append_other fun event hevent ↦ ?_, hshare]
      rw [hasks event hevent]
      rfl
    rw [← List.append_assoc]
    refine h.reaching hlineage hbegun (fun event hevent index hindex ↦ ?_)
      (h.lawful.append fun event hevent before ↦ ?_) _ (schedule.lineages_reaching place _ _)
    · rw [hasks event hevent] at hindex
      cases hindex
    · rw [hasks event hevent]
      trivial

/-- A lineage that runs a chapter has one that is not finished. -/
theorem Schedule.Follows.rest_ne_nil (h : schedule.Follows chapters past) {act : ChapterRun}
    (hfound : schedule.lineages[place]? = some ⟨.running act, rest, outputs⟩) :
    ∃ numbered later, rest = numbered :: later := by
  obtain ⟨lineage, -, -, hrecords⟩ := h.exists_lineage hfound
  generalize lineage.share past = share at hrecords
  cases hrecords
  exact ⟨_, _, rfl⟩

end Follows

end Runbook.Build
