import LogCollector.Proofs.Calendar.LocalTime
import LogCollector.Proofs.Run.ServiceCalls
import LogCollector.Proofs.Run.WorldStates
import LogCollector.Proofs.Status.PositionMap

/-!
# The time of the last connection

Reports on the connection of one entity to a service that remembers posts but is not always
reached (`Remembers`): any call may fail to be carried out, a look-up may be answered by a status
other than 404 that is no success, and a post may be refused, in which case nothing is stored.

The time of the last connection is carried through such a service by the reports themselves: that
of a lost connection looks the time up and posts it again. What is stored after any number of
reports is the time of the latest successful report of a connection, or none or an empty one if
there was none (`last_connection_is_kept`); a report that cannot look the time up leaves the
service alone.
-/

namespace LogCollector

open Stage.PlayedService (remembering document)
open Status (Endpoints Document healthParameters lastConnectionKey storedConnection)

/-! ### A service that is not always reached -/

/-- The status service of a world remembers posts: `documents` are the documents it has in a
state in which it works. A look-up is answered from the documents, or fails or is answered by a
status that is neither a success nor 404; a post is accepted and stored, or it is not accepted. -/
structure Remembers {σ : Type} (w : World σ) (Works : σ → Prop)
    (documents : σ → List (String × String)) : Prop where
  /-- Look-ups change nothing. -/
  lookUp : ∀ s endpoint, Works s →
    Works (w.call .status endpoint [] s).2 ∧
      documents (w.call .status endpoint [] s).2 = documents s ∧
      ((w.call .status endpoint [] s).1 = .ok ((remembering (documents s)).lookUp endpoint) ∨
        ¬ Known (w.call .status endpoint [] s).1)
  /-- Posts are stored if they are accepted. -/
  post : ∀ s endpoint params, params ≠ [] → Works s →
    Works (w.call .status endpoint params s).2 ∧
      (Accepts (w.call .status endpoint params s).1 ∧
          documents (w.call .status endpoint params s).2 =
            (endpoint ++ (params.lookup "name").getD "", document params) :: documents s ∨
        ¬ Accepts (w.call .status endpoint params s).1 ∧
          documents (w.call .status endpoint params s).2 = documents s)
  /-- Reading the clock changes nothing. -/
  now : ∀ s, Works s → Works (w.now s).2 ∧ documents (w.now s).2 = documents s

/-! ### What is stored -/

/-- The time that the document of an entry tells, if there is one. -/
def heldConnection (entry : String) (documents : List (String × String)) : Option String :=
  (documents.lookup entry).bind fun body => (Document.parse body).get? lastConnectionKey

/-- A look-up that is answered finds the stored time; an absent one is as good as an empty one. -/
theorem storedConnection_lookUp (entry : String) (documents : List (String × String)) :
    storedConnection entry ((remembering documents).lookUp entry) =
      .ok ((heldConnection entry documents).getD "") := by
  rw [lookUp_remembering, heldConnection]
  cases documents.lookup entry with
  | none => rfl
  | some body => rfl

/-- The time of a stored report is found again. -/
theorem heldConnection_cons {r : HealthReport} (he : '<' ∉ r.entity.toList)
    (ht : '<' ∉ r.lastConnection.toList) (entry : String) (documents : List (String × String)) :
    heldConnection entry ((entry, document (healthParameters r)) :: documents) =
      some r.lastConnection := by
  have hkeys : ∀ p ∈ healthParameters r, '"' ∉ p.1.toList := by
    simp [healthParameters, lastConnectionKey]
  have hvalues : ∀ p ∈ healthParameters r, '<' ∉ p.2.toList := by
    intro p hp
    simp only [healthParameters, List.mem_cons, List.not_mem_nil, or_false] at hp
    rcases hp with rfl | rfl | rfl
    · exact he
    · show '<' ∉ (if r.connected = true then "1" else "0").toList
      split <;> decide
    · exact ht
  rw [heldConnection, List.lookup_cons, beq_self_eq_true]
  exact Status.conveys_document hkeys hvalues lastConnectionKey r.lastConnection rfl

/-- An instant as the time of a connection. -/
def timestamp (instant : Int) : String := .ofList (Calendar.Reading.ofSeconds instant).universal

/-- No tag begins in the time of a connection. -/
theorem not_mem_timestamp (instant : Int) : '<' ∉ (timestamp instant).toList := by
  have hdate := (Calendar.Reading.ofSeconds instant).not_mem_dashedDate (c := '<') (by decide)
    (by decide) (by decide)
  have htime := (Calendar.Reading.ofSeconds instant).not_mem_clockTime (c := '<') (by decide)
    (by decide)
  simp [timestamp, Calendar.Reading.universal, hdate, htime]

/-- What is stored for an entry is the latest time; none or an empty one when there is none. -/
def StoresLatest (latest : Option String) (held : Option String) : Prop :=
  match latest with
  | some time => held = some time
  | none => held = none ∨ held = some ""

/-- What is found when it is looked up is then the latest time, or empty. -/
theorem StoresLatest.getD_eq {latest held : Option String} (h : StoresLatest latest held) :
    held.getD "" = latest.getD "" := by
  cases latest with
  | some time => rw [h]
  | none => rcases h with rfl | rfl <;> rfl

/-- The latest time, or an empty one, is as good as what is stored already. -/
theorem storesLatest_getD (latest : Option String) :
    StoresLatest latest (some (latest.getD "")) := by
  cases latest with
  | some time => rfl
  | none => exact .inr rfl

/-! ### Reports -/

/-- The entry of an entity. -/
def healthEntry (entity app : String) : String := (Endpoints.ofApp app).health ++ entity

/-- The time that a report posts: the present one for a connection, and the stored one, or an
empty one, for the end of a connection. -/
def reportedTime {σ : Type} (w : World σ) (documents : σ → List (String × String))
    (entity app : String) (connected : Bool) (s : σ) : String :=
  if connected then timestamp (w.now s).1
  else (heldConnection (healthEntry entity app) (documents s)).getD ""

section

variable {σ : Type} {w : World σ} {Works : σ → Prop} {documents : σ → List (String × String)}
  (hw : Remembers w Works documents) {app : String} {before : List (String × String)}
include hw

/-- A post succeeds and is stored, or it fails and is not. -/
theorem Remembers.brings_post (r : HealthReport) :
    Brings (fun s => Works s ∧ documents s = before)
      (CheckpointStore.post w (Endpoints.ofApp app).health (healthParameters r)) fun result s =>
        Works s ∧ (result.isOk = true ∧
            documents s = (healthEntry r.entity app, document (healthParameters r)) :: before ∨
          result.isOk = false ∧ documents s = before) := by
  have hserve : Brings (fun s => Works s ∧ documents s = before)
      (w.serve .status (Endpoints.ofApp app).health (healthParameters r)) fun answer s =>
        Works s ∧ (Accepts answer ∧
            documents s = (healthEntry r.entity app, document (healthParameters r)) :: before ∨
          ¬ Accepts answer ∧ documents s = before) := by
    refine .serve ?_
    rintro s ⟨hs, rfl⟩
    exact hw.post s _ _ (List.cons_ne_nil _ _) hs
  refine hserve.bind fun answer => ?_
  cases answer with
  | error f =>
    refine .pure fun s ⟨hs, h⟩ => ⟨hs, .inr ⟨rfl, ?_⟩⟩
    rcases h with ⟨⟨r, hr, -⟩, -⟩ | ⟨-, h⟩
    · cases hr
    · exact h
  | ok answer =>
    refine .pure fun s ⟨hs, h⟩ => ⟨hs, ?_⟩
    by_cases hr : answer.isSuccess = true
    · rw [if_pos hr]
      rcases h with ⟨-, h⟩ | ⟨hnot, -⟩
      · exact .inl ⟨rfl, h⟩
      · exact absurd ⟨answer, rfl, hr⟩ hnot
    · rw [if_neg hr]
      rcases h with ⟨⟨r, he, hr'⟩, -⟩ | ⟨-, h⟩
      · obtain rfl := Except.ok.inj he
        exact absurd hr' hr
      · exact .inr ⟨rfl, h⟩

/-- **What a report does**: it succeeds, and its time is stored, or it fails and changes nothing. -/
theorem Remembers.brings_reportHealth (entity app : String) (connected : Bool) {s₀ : σ}
    (hs₀ : Works s₀) :
    Brings (fun s => s = s₀) ((CheckpointStore.ofEntity entity app).reportHealth w connected)
      fun result s => Works s ∧ (result.isOk = true ∧ documents s = (healthEntry entity app,
            document (healthParameters
              ⟨entity, connected, reportedTime w documents entity app connected s₀⟩)) ::
            documents s₀ ∨
          result.isOk = false ∧ documents s = documents s₀) := by
  have htime : Brings (fun s => s = s₀)
      (CheckpointStore.connectionTime w ⟨entity, app⟩ connected) fun time s =>
        (∀ text, time = .ok text → text = reportedTime w documents entity app connected s₀) ∧
          Works s ∧ documents s = documents s₀ := by
    cases connected with
    | true =>
      refine Brings.bind (.clock fun s hs => ?_) fun instant => .pure fun s h => h
      subst hs
      refine ⟨fun text htext => ?_, hw.now s hs₀⟩
      exact (Except.ok.inj htext).symm
    | false =>
      refine Brings.bind (.serve fun s hs => ?_) fun answer => .pure fun s h => h
      subst hs
      obtain ⟨hworks, hsame, hanswer⟩ := hw.lookUp s (healthEntry entity app) hs₀
      refine ⟨fun text htext => ?_, hworks, hsame⟩
      rcases hanswer with hanswer | hunknown
      · have htold : (w.call .status (healthEntry entity app) [] s).1.bind
            (storedConnection (healthEntry entity app)) = .ok text := htext
        rw [hanswer] at htold
        exact (Except.ok.inj ((storedConnection_lookUp _ _).symm.trans htold)).symm
      · exact absurd (storedConnection_eq_ok_iff.1 ⟨text, htext⟩) hunknown
  refine htime.bind fun time => ?_
  cases time with
  | error f => exact .pure fun s ⟨_, hs, h⟩ => ⟨hs, .inr ⟨rfl, h⟩⟩
  | ok text =>
    refine .given fun htext => ?_
    obtain rfl := htext text rfl
    refine (hw.brings_post ⟨entity, connected, _⟩).bind fun result => ?_
    cases result with
    | error f => exact .pure fun _ h => h
    | ok _ => exact .pure fun _ h => h

end

/-- The fault that an answer to a look-up stands for when it tells nothing: the call has not been
carried out, or the status is neither a success nor 404. -/
def lookUpFault? (endpoint : String) : Except StatusFault Status.Response → Option StatusFault
  | .error f => some f
  | .ok r => if r.isNotFound || r.isSuccess then none else some (.httpStatus endpoint r.status)

theorem bind_storedConnection_of_fault {endpoint : String}
    {answer : Except StatusFault Status.Response} {fault : StatusFault}
    (h : lookUpFault? endpoint answer = some fault) :
    answer.bind (storedConnection endpoint) = .error fault := by
  cases answer with
  | error f => exact congrArg Except.error (Option.some.inj h)
  | ok r =>
    simp only [lookUpFault?] at h
    by_cases hknown : (r.isNotFound || r.isSuccess) = true
    · rw [if_pos hknown] at h
      cases h
    · rw [if_neg hknown] at h
      obtain ⟨hfound, hsuccess⟩ : r.isNotFound = false ∧ r.isSuccess = false := by
        simpa using hknown
      obtain rfl := Option.some.inj h
      simp [Except.bind, storedConnection, hfound, hsuccess]

/-- **A report that cannot look the time up** ends with the fault of the look-up, and makes no
other call. -/
theorem reportHealth_of_fault {σ : Type} (w : World σ) (entity app : String) (t : Tape σ)
    {fault : StatusFault} (h : lookUpFault? (healthEntry entity app)
      (w.call .status (healthEntry entity app) [] t.world).1 = some fault) :
    ((CheckpointStore.ofEntity entity app).reportHealth w false t).1 = .error fault ∧
      serviceCalls ((CheckpointStore.ofEntity entity app).reportHealth w false t).2.journal =
        serviceCalls t.journal ++ [⟨.status, healthEntry entity app, [],
          (w.call .status (healthEntry entity app) [] t.world).1⟩] := by
  have htime : CheckpointStore.connectionTime w ⟨entity, app⟩ false t =
      (.error fault, (w.serve .status (healthEntry entity app) [] t).2) :=
    Prod.ext (bind_storedConnection_of_fault h) rfl
  have hreport : (CheckpointStore.ofEntity entity app).reportHealth w false t =
      (.error fault, (w.serve .status (healthEntry entity app) [] t).2) := by
    simp only [CheckpointStore.reportHealth, CheckpointStore.ofEntity, Run.bind_apply, htime]
    rfl
  rw [hreport]
  refine ⟨rfl, ?_⟩
  show serviceCalls (.measured .called :: .called _ _ _ _ :: t.journal) = _
  simp only [serviceCalls_cons, Step.call?, Option.toList_none, Option.toList_some,
    List.append_nil]

/-! ### Runs of reports -/

/-- A point in a run of reports. -/
structure ReportRun (σ : Type) where
  /-- The run so far. -/
  tape : Tape σ
  /-- The time of the latest successful report of a connection. -/
  latest : Option String

/-- One report more. -/
def ReportRun.report {σ : Type} (w : World σ) (entity app : String) (a : ReportRun σ)
    (connected : Bool) : ReportRun σ :=
  let after := (CheckpointStore.ofEntity entity app).reportHealth w connected a.tape
  ⟨after.2, if connected && after.1.isOk then some (timestamp (w.now a.tape.world).1) else a.latest⟩

section

variable {σ : Type} {w : World σ} {Works : σ → Prop} {documents : σ → List (String × String)}
  {entity app : String}

/-- The service works and stores the latest time, in which no tag begins. -/
structure ReportRun.Kept (Works : σ → Prop) (documents : σ → List (String × String))
    (entity app : String) (a : ReportRun σ) : Prop where
  /-- The service works. -/
  works : Works a.tape.world
  /-- No tag begins in the time. -/
  plain : '<' ∉ (a.latest.getD "").toList
  /-- The time is stored. -/
  stored : StoresLatest a.latest (heldConnection (healthEntry entity app) (documents a.tape.world))

/-- **One report keeps the time.** -/
theorem ReportRun.Kept.report (hw : Remembers w Works documents) (hentity : '<' ∉ entity.toList)
    {a : ReportRun σ} (h : a.Kept Works documents entity app) (connected : Bool) :
    (a.report w entity app connected).Kept Works documents entity app := by
  obtain ⟨hworks, houtcome⟩ := hw.brings_reportHealth entity app connected h.works a.tape rfl
  have hheld := h.stored.getD_eq
  have htime : '<' ∉ (reportedTime w documents entity app connected a.tape.world).toList := by
    unfold reportedTime
    split
    · exact not_mem_timestamp _
    · rw [hheld]
      exact h.plain
  rcases houtcome with ⟨hok, hstored⟩ | ⟨herror, hsame⟩
  · have hfound : heldConnection (healthEntry entity app) (documents (a.report w entity app
        connected).tape.world) =
          some (reportedTime w documents entity app connected a.tape.world) := by
      show heldConnection _
        (documents (CheckpointStore.reportHealth w _ connected a.tape).2.world) = _
      rw [hstored]
      exact heldConnection_cons hentity htime _ _
    cases connected with
    | true =>
      have hlatest : (a.report w entity app true).latest =
          some (timestamp (w.now a.tape.world).1) := by
        simp only [ReportRun.report, hok, Bool.and_true, if_true]
      refine ⟨hworks, ?_, ?_⟩
      · rw [hlatest]
        exact not_mem_timestamp _
      · rw [hlatest]
        exact hfound
    | false =>
      refine ⟨hworks, h.plain, ?_⟩
      rw [hfound, reportedTime, if_neg Bool.false_ne_true, hheld]
      exact storesLatest_getD a.latest
  · have hlatest : (a.report w entity app connected).latest = a.latest := by
      simp only [ReportRun.report, herror, Bool.and_false, Bool.false_eq_true, if_false]
    refine ⟨hworks, ?_, ?_⟩
    · rw [hlatest]
      exact h.plain
    · rw [hlatest]
      show StoresLatest a.latest (heldConnection _ (documents (CheckpointStore.reportHealth w _
        connected a.tape).2.world))
      rw [hsame]
      exact h.stored

/-- Any number of reports keep the time. -/
theorem ReportRun.Kept.reports (hw : Remembers w Works documents) (hentity : '<' ∉ entity.toList)
    (flags : List Bool) {a : ReportRun σ} (h : a.Kept Works documents entity app) :
    (flags.foldl (ReportRun.report w entity app) a).Kept Works documents entity app := by
  induction flags generalizing a with
  | nil => exact h
  | cons connected flags ih => exact ih (h.report hw hentity connected)

/-- **The time of the last connection is kept.** A service that remembers posts, but is not always
reached, has no documents at first. After any number of reports for an entity, of whose calls any
may fail, the time stored is that of the latest successful report of a connection, and none or an
empty one if there was none. When the look-up of a report fails next, this report ends with the
fault and makes no other call. -/
theorem last_connection_is_kept (hw : Remembers w Works documents) (entity app : String)
    (hentity : '<' ∉ entity.toList) (start : Tape σ) (hworks : Works start.world)
    (hempty : documents start.world = []) (flags : List Bool) :
    let a := flags.foldl (ReportRun.report w entity app) ⟨start, none⟩
    let entry := healthEntry entity app
    let answer := (w.call .status entry [] a.tape.world).1
    let after := (CheckpointStore.ofEntity entity app).reportHealth w false a.tape
    StoresLatest a.latest (heldConnection entry (documents a.tape.world)) ∧
      ∀ fault, lookUpFault? entry answer = some fault → after.1 = .error fault ∧
        serviceCalls after.2.journal =
          serviceCalls a.tape.journal ++ [⟨.status, entry, [], answer⟩] := by
  intro a entry answer after
  have hstart : ReportRun.Kept Works documents entity app ⟨start, none⟩ := by
    refine ⟨hworks, by simp, ?_⟩
    rw [hempty]
    exact .inl rfl
  exact ⟨(hstart.reports hw hentity flags).stored, fun fault h =>
    reportHealth_of_fault w entity app a.tape h⟩

end

/-! ### On a stage -/

namespace Stage

/-- A played service that remembers posts, and whose prepared answers are all failures. -/
structure PlayedService.Falters (p : PlayedService) : Prop where
  /-- Posts are remembered. -/
  remembers : p.remembers = true
  /-- The prepared answers. -/
  script : ∀ r, .ok r ∈ p.script → r.isSuccess = false ∧ r.isNotFound = false
  /-- The prepared status of look-ups. -/
  gets : ∀ status, p.failGets = some status → 300 ≤ status ∧ status ≠ 404
  /-- The prepared status of posts. -/
  posts : ∀ status, p.failPosts = some status → 300 ≤ status

namespace PlayedService.Falters

variable {p : PlayedService} (h : p.Falters)
include h

/-- A service stays so when a prepared answer is given. -/
theorem of_script {answer : Except String Status.Response}
    {rest : List (Except String Status.Response)} (hs : p.script = answer :: rest) :
    Falters { p with script := rest } where
  remembers := h.remembers
  script r hr := h.script r (by rw [hs]; exact List.mem_cons_of_mem _ hr)
  gets := h.gets
  posts := h.posts

/-- A look-up is answered from the documents, or fails. -/
theorem lookUp (endpoint : String) :
    (p.call endpoint []).2.Falters ∧ (p.call endpoint []).2.documents = p.documents ∧
      ((p.call endpoint []).1 = .ok ((remembering p.documents).lookUp endpoint) ∨
        ¬ Known (p.call endpoint []).1) := by
  unfold PlayedService.call
  split
  · rename_i reason rest hs
    exact ⟨h.of_script hs, rfl, .inr (by simp [Known])⟩
  · rename_i r rest hs
    obtain ⟨hsuccess, hfound⟩ := h.script r (by simp [hs])
    exact ⟨h.of_script hs, rfl, .inr (by simp [Known, hsuccess, hfound])⟩
  · refine ⟨h, rfl, ?_⟩
    simp only [List.isEmpty_nil, if_true, Except.ok.injEq, lookUp_remembering]
    unfold PlayedService.lookUp
    cases hg : p.failGets with
    | none =>
      left
      cases p.documents.lookup endpoint with
      | none => simp [h.remembers]
      | some body => rfl
    | some status =>
      right
      obtain ⟨hfailed, hother⟩ := h.gets status hg
      simp only [Known, Except.ok.injEq, exists_eq_left', Status.Response.isNotFound,
        Status.Response.isSuccess, decide_eq_true_eq]
      omega

/-- A post is stored, or fails. -/
theorem post (endpoint : String) {params : Status.Parameters} (hp : params ≠ []) :
    (p.call endpoint params).2.Falters ∧
      (Accepts (p.call endpoint params).1 ∧ (p.call endpoint params).2.documents =
          (endpoint ++ (params.lookup "name").getD "", document params) :: p.documents ∨
        ¬ Accepts (p.call endpoint params).1 ∧
          (p.call endpoint params).2.documents = p.documents) := by
  unfold PlayedService.call
  split
  · rename_i reason rest hs
    exact ⟨h.of_script hs, .inr ⟨by simp [Accepts], rfl⟩⟩
  · rename_i r rest hs
    obtain ⟨hsuccess, -⟩ := h.script r (by simp [hs])
    exact ⟨h.of_script hs, .inr ⟨by simp [Accepts, hsuccess], rfl⟩⟩
  · rw [if_neg (by simpa using hp)]
    unfold PlayedService.post
    cases hf : p.failPosts with
    | none =>
      rw [h.remembers]
      exact ⟨⟨rfl, h.script, h.gets, by simp⟩, .inl ⟨⟨_, rfl, rfl⟩, rfl⟩⟩
    | some status =>
      have hfailed := h.posts status hf
      refine ⟨h, .inr ⟨?_, rfl⟩⟩
      simp only [Accepts, Except.ok.injEq, exists_eq_left', Status.Response.isSuccess,
        decide_eq_true_eq]
      omega

end PlayedService.Falters

/-- The documents of the status service. -/
def heldDocuments (s : Stage) : List (String × String) :=
  match s.status with
  | .played p => p.documents
  | .command _ _ => []

/-- On a stage the status service may remember posts and fail now and then. -/
theorem remembers_world :
    Remembers world (fun s => ∃ p, s.status = .played p ∧ p.Falters) heldDocuments where
  lookUp := by
    rintro s endpoint ⟨p, hp, hf⟩
    obtain ⟨hfalters, hsame, hanswer⟩ := hf.lookUp endpoint
    simp only [world, heldDocuments, hp, Service.call]
    exact ⟨⟨_, rfl, hfalters⟩, hsame, hanswer⟩
  post := by
    rintro s endpoint params hparams ⟨p, hp, hf⟩
    obtain ⟨hfalters, hstored⟩ := hf.post endpoint hparams
    simp only [world, heldDocuments, hp, Service.call]
    exact ⟨⟨_, rfl, hfalters⟩, hstored⟩
  now s h := ⟨h, rfl⟩

/-- A stage whose status service cannot be reached at the first call, refuses every look-up and
has no documents. -/
def faltering : Stage :=
  { bare .universal 1714979289 with
    status := .played ⟨[.error "connection refused"], [], true, some 503, none⟩ }

theorem falters_faltering : ∃ p, faltering.status = .played p ∧ p.Falters := by
  refine ⟨_, rfl, rfl, by simp, fun status h => ?_, by simp⟩
  obtain rfl := Option.some.inj h
  decide

end Stage

/-- The first report is lost and the second one stored; the third one cannot look its time up, and
neither can the next one. -/
theorem last_connection_is_kept_faltering :
    let a := [true, true, false].foldl (ReportRun.report Stage.world "fw1" "app")
      ⟨⟨Stage.faltering, []⟩, none⟩
    a.latest = some "2024-05-06T07:08:09Z" ∧
      heldConnection (healthEntry "fw1" "app") (Stage.heldDocuments a.tape.world) =
        some "2024-05-06T07:08:09Z" ∧
      ((CheckpointStore.ofEntity "fw1" "app").reportHealth Stage.world false a.tape).1 =
        .error (.httpStatus (healthEntry "fw1" "app") 503) := by
  intro a
  have hlatest : a.latest = some "2024-05-06T07:08:09Z" := by decide +kernel
  obtain ⟨hstored, hfault⟩ := last_connection_is_kept Stage.remembers_world "fw1" "app"
    (by decide) ⟨Stage.faltering, []⟩ Stage.falters_faltering rfl [true, true, false]
  rw [hlatest] at hstored
  exact ⟨hlatest, hstored, (hfault _ rfl).1⟩

end LogCollector
