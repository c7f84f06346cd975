import LogCollector.Proofs.Run.StoredPosition
import LogCollector.Proofs.Run.WorldStates
import LogCollector.Stage.World
import Mathlib.Logic.Function.Basic

/-!
# The stored positions as a map

A service that remembers posts keeps one document for each entry. Seen through the look-ups of
checkpoint stores these documents are a map from entities and log files to positions
(`heldPosition`): storing a position updates the map at one pair, and a report on a connection
leaves it as it is. So after any calls to the stores of an application each look-up finds the
position stored last for its pair (`positions_refine_map`).

The world around the service is arbitrary; it only has to pass the calls on (`Plays`).
-/

namespace LogCollector

open Stage (PlayedService)
open Status (Endpoints entryName positionParameters storedPosition)

/-! ### Worlds with a played service -/

/-- The status service of a world is a played one, which the clock leaves alone: `Holds` relates a
state of the world to the service in it. -/
structure Plays {σ : Type} (w : World σ) (Holds : σ → PlayedService → Prop) : Prop where
  /-- Calls are answered by the played service. -/
  call : ∀ s p endpoint params, Holds s p →
    (w.call .status endpoint params s).1 = (p.call endpoint params).1 ∧
      Holds (w.call .status endpoint params s).2 (p.call endpoint params).2
  /-- Reading the clock does not change the service. -/
  now : ∀ s p, Holds s p → Holds (w.now s).2 p

/-- On a stage the status service may be played. -/
theorem plays_stage : Plays Stage.world fun s p => s.status = .played p where
  call s p endpoint params h := by simp [Stage.world, h, Stage.Service.call]
  now _ _ h := h

/-! ### A service that remembers posts -/

/-- A service that has some documents and remembers posts. -/
def Stage.PlayedService.remembering (documents : List (String × String)) : PlayedService :=
  { PlayedService.empty with documents, remembers := true }

open Stage.PlayedService (remembering document)

/-- A post adds the document of its parameters. -/
theorem call_remembering_post (documents : List (String × String)) (endpoint : String)
    {params : Status.Parameters} (h : params ≠ []) :
    (remembering documents).call endpoint params = (.ok ⟨201, ""⟩,
      remembering
        ((endpoint ++ (params.lookup "name").getD "", document params) :: documents)) := by
  cases params with
  | nil => exact absurd rfl h
  | cons p ps => rfl

theorem lookUp_remembering (documents : List (String × String)) (endpoint : String) :
    (remembering documents).lookUp endpoint = match documents.lookup endpoint with
      | some body => ⟨200, body⟩
      | none => ⟨404, ""⟩ := by
  cases h : documents.lookup endpoint <;>
    simp [PlayedService.lookUp, remembering, PlayedService.empty, h]

/-! ### The map of positions -/

/-- The store of an entity of an application. -/
def CheckpointStore.ofEntity (entity app : String) : CheckpointStore := ⟨some ⟨entity, app⟩⟩

/-- The entry of an application for an entity and a log file. -/
def positionEntry (app : String) (pair : String × Int) : String :=
  (Endpoints.ofApp app).positions ++ entryName pair.2 pair.1

/-- Entries of different pairs differ. -/
theorem positionEntry_injective (app : String) : Function.Injective (positionEntry app) := by
  rintro ⟨entity, fileId⟩ ⟨entity', fileId'⟩ h
  have hname : entryName fileId entity = entryName fileId' entity' :=
    (String.append_right_inj _).1 h
  -- No number holds `@`, so the name is cut behind the number.
  have hcut : ∀ fileId entity, Text.cut? '@' (entryName fileId entity).toList =
      some (Numeral.ofInt fileId, entity.toList) := by
    intro fileId entity
    have hnumber : '@' ∉ Numeral.ofInt fileId :=
      Numeral.not_mem_ofInt (by decide) (by decide) fileId
    simp only [entryName, Numeral.intText, String.toList_append, String.toList_ofList,
      List.append_assoc]
    exact Text.cut?_append hnumber entity.toList
  have hparts := hcut fileId entity
  rw [hname, hcut, Option.some.injEq, Prod.mk.injEq] at hparts
  rw [Prod.mk.injEq]
  exact ⟨String.toList_inj.1 hparts.2.symm, Numeral.ofInt_injective hparts.1.symm⟩

/-- What a look-up finds for an entity and a log file. -/
def heldPosition (app : String) (documents : List (String × String)) (pair : String × Int) :
    Except StatusFault (Option Int) :=
  storedPosition (positionEntry app pair) ((remembering documents).lookUp (positionEntry app pair))

/-- A document more at another entry does not matter. -/
theorem heldPosition_cons (app entry body : String) (documents : List (String × String))
    (pair : String × Int) : heldPosition app ((entry, body) :: documents) pair =
      if positionEntry app pair = entry then storedPosition (positionEntry app pair) ⟨200, body⟩
      else heldPosition app documents pair := by
  unfold heldPosition
  rw [lookUp_remembering, lookUp_remembering, List.lookup_cons]
  by_cases h : positionEntry app pair = entry
  · rw [if_pos h, beq_iff_eq.2 h]
  · rw [if_neg h, beq_eq_false_iff_ne.2 h]

/-- A report on a connection does not matter. -/
theorem heldPosition_report (app entity body : String) (documents : List (String × String))
    (pair : String × Int) :
    heldPosition app (((Endpoints.ofApp app).health ++ entity, body) :: documents) pair =
      heldPosition app documents pair := by
  rw [heldPosition_cons, if_neg]
  exact Status.positions_ne_health app _ _

/-- A checkpoint that survives being stored: its position has 32 bits, and no name in it holds `<`,
with which a tag begins. -/
structure Checkpoint.IsPlain (c : Checkpoint) : Prop where
  /-- The entity. -/
  entity : '<' ∉ c.entity.toList
  /-- The name of the log file. -/
  fileName : '<' ∉ c.fileName.toList
  /-- The position. -/
  position : -2147483648 ≤ c.position ∧ c.position ≤ 2147483647

/-- The pair of a checkpoint. -/
def Checkpoint.pair (c : Checkpoint) : String × Int := (c.entity, c.fileId)

/-- The document of a checkpoint tells its position. -/
theorem Checkpoint.IsPlain.storedPosition_document {c : Checkpoint} (h : c.IsPlain)
    (endpoint : String) :
    storedPosition endpoint ⟨200, document (positionParameters c)⟩ = .ok (some c.position) := by
  have hkeys : ∀ p ∈ positionParameters c, '"' ∉ p.1.toList := by
    simp [positionParameters, Status.positionKey]
  have htells : Status.Conveys (document (positionParameters c)) (positionParameters c) :=
    Status.conveys_document hkeys
  generalize document (positionParameters c) = body at htells ⊢
  rw [Status.storedPosition_eq_of_conveys h.entity h.fileName rfl htells,
    Status.readPosition_intText, if_pos h.position]
  rfl

/-- The documents of a service represent a map of positions. -/
def Represents (app : String) (documents : List (String × String))
    (positions : String × Int → Option Int) : Prop :=
  ∀ pair, heldPosition app documents pair = .ok (positions pair)

/-- Nothing is found in an empty service. -/
theorem represents_nil (app : String) : Represents app [] fun _ => none := fun _ => rfl

/-- The document of a checkpoint updates the map at its pair. -/
theorem Represents.commit {app : String} {documents : List (String × String)}
    {positions : String × Int → Option Int} (h : Represents app documents positions)
    {c : Checkpoint} (hc : c.IsPlain) :
    Represents app ((positionEntry app c.pair, document (positionParameters c)) :: documents)
      (Function.update positions c.pair (some c.position)) := by
  intro pair
  rw [heldPosition_cons, Function.update_apply]
  by_cases hpair : pair = c.pair
  · rw [if_pos (congrArg _ hpair), if_pos hpair, hc.storedPosition_document]
  · rw [if_neg fun hentry => hpair (positionEntry_injective app hentry), if_neg hpair, h pair]

/-! ### Calls of stores -/

/-- A call of a store of an application. -/
inductive StoreCall where
  /-- The store of an entity stores a checkpoint. -/
  | commit (entity : String) (checkpoint : Checkpoint)
  /-- The store of an entity reports whether the entity is connected. -/
  | report (entity : String) (connected : Bool)

namespace StoreCall

/-- What a call changes in a map of positions. -/
def update (positions : String × Int → Option Int) : StoreCall → String × Int → Option Int
  | .commit _ c => Function.update positions c.pair (some c.position)
  | .report _ _ => positions

/-- The call stores a checkpoint of a pair. -/
def Commits (pair : String × Int) : StoreCall → Prop
  | .commit _ c => c.pair = pair
  | .report _ _ => False

/-- What is stored survives. -/
def IsPlain : StoreCall → Prop
  | .commit _ c => c.IsPlain
  | .report _ _ => True

/-- Makes a call; the result is whether it succeeded. -/
def perform {σ : Type} (w : World σ) (app : String) : StoreCall → Run σ Bool
  | .commit entity c => do return (← (CheckpointStore.ofEntity entity app).commit w c).isOk
  | .report entity connected => do
    return (← (CheckpointStore.ofEntity entity app).reportHealth w connected).isOk

end StoreCall

/-! ### What calls do to the documents -/

section

variable {σ : Type} {w : World σ} {Holds : σ → PlayedService → Prop} (hw : Plays w Holds)
  {documents : List (String × String)}
include hw

/-- A look-up is answered, and changes nothing. -/
theorem brings_lookUp (endpoint : String) :
    Brings (Holds · (remembering documents)) (w.serve .status endpoint []) fun answer s =>
      answer = .ok ((remembering documents).lookUp endpoint) ∧ Holds s (remembering documents) :=
  .serve fun s hs => hw.call s (remembering documents) endpoint [] hs

/-- A post succeeds, and adds a document. -/
theorem brings_post (endpoint : String) {params : Status.Parameters} (h : params ≠ []) :
    Brings (Holds · (remembering documents)) (CheckpointStore.post w endpoint params)
      fun result s => result = .ok () ∧ Holds s (remembering
        ((endpoint ++ (params.lookup "name").getD "", document params) :: documents)) := by
  have hcall : Brings (Holds · (remembering documents)) (w.serve .status endpoint params)
      fun answer s => answer = .ok ⟨201, ""⟩ ∧ Holds s (remembering
        ((endpoint ++ (params.lookup "name").getD "", document params) :: documents)) := by
    refine .serve fun s hs => ?_
    have hanswer := hw.call s (remembering documents) endpoint params hs
    rwa [call_remembering_post documents endpoint h] at hanswer
  refine hcall.bind fun answer => .given ?_
  rintro rfl
  exact .pure fun s hs => ⟨rfl, hs⟩

/-- A store finds what is held. -/
theorem brings_lastPosition (app entity : String) (fileId : Int) :
    Brings (Holds · (remembering documents))
      ((CheckpointStore.ofEntity entity app).lastPosition w fileId) fun result s =>
        result = heldPosition app documents (entity, fileId) ∧ Holds s (remembering documents) := by
  refine (brings_lookUp hw _).bind fun answer => .given ?_
  rintro rfl
  exact .pure fun s hs => ⟨rfl, hs⟩

/-- A commit succeeds, and adds the document of the checkpoint. -/
theorem brings_commit (app entity : String) (c : Checkpoint) :
    Brings (Holds · (remembering documents)) ((CheckpointStore.ofEntity entity app).commit w c)
      fun result s => result = .ok () ∧ Holds s (remembering
        ((positionEntry app c.pair, document (positionParameters c)) :: documents)) := by
  refine (brings_post hw _ (List.cons_ne_nil _ _)).bind fun result => .given ?_
  rintro rfl
  exact Brings.bind (.measure fun s hs => hs) fun _ => .pure fun s hs => ⟨rfl, hs⟩

/-- A report succeeds, and adds a document at the entry of a connection. -/
theorem brings_reportHealth (app entity : String) (connected : Bool) :
    Brings (Holds · (remembering documents))
      ((CheckpointStore.ofEntity entity app).reportHealth w connected) fun result s =>
        ∃ body, result.isOk = true ∧ Holds s (remembering
          (((Endpoints.ofApp app).health ++ entity, body) :: documents)) := by
  have htime : Brings (Holds · (remembering documents))
      (CheckpointStore.connectionTime w ⟨entity, app⟩ connected) fun result s =>
        ∃ time, result = .ok time ∧ Holds s (remembering documents) := by
    unfold CheckpointStore.connectionTime
    split
    · exact Brings.bind (.clock fun s hs => hw.now s _ hs) fun _ => .pure fun s hs => ⟨_, rfl, hs⟩
    · refine (brings_lookUp hw _).bind fun answer => .given ?_
      rintro rfl
      refine .pure fun s hs => ?_
      rw [lookUp_remembering]
      split
      · exact ⟨_, rfl, hs⟩
      · exact ⟨_, rfl, hs⟩
  refine htime.bind fun result => .exists fun time => .given ?_
  rintro rfl
  refine (brings_post hw _ (List.cons_ne_nil _ _)).bind fun result => .given ?_
  rintro rfl
  exact .pure fun s hs => ⟨_, rfl, hs⟩

/-- **What a call does**: it succeeds, changes what is found for a pair only if it stores a
checkpoint of that pair, and updates the map of positions. -/
theorem brings_perform (app : String) (call : StoreCall) :
    Brings (Holds · (remembering documents)) (call.perform w app) fun succeeded s =>
      succeeded = true ∧ ∃ documents',
        ((∀ pair, ¬ call.Commits pair →
            heldPosition app documents' pair = heldPosition app documents pair) ∧
          (call.IsPlain → ∀ positions, Represents app documents positions →
            Represents app documents' (call.update positions))) ∧
        Holds s (remembering documents') := by
  cases call with
  | commit entity c =>
    refine (brings_commit hw app entity c).bind fun result => .given ?_
    rintro rfl
    refine .pure fun s hs => ⟨rfl, _, ⟨?_, ?_⟩, hs⟩
    · intro pair hpair
      rw [heldPosition_cons, if_neg]
      exact fun hentry => hpair (positionEntry_injective app hentry).symm
    · intro hc positions h
      exact h.commit hc
  | report entity connected =>
    refine (brings_reportHealth hw app entity connected).bind fun result => .exists fun body =>
      .given fun hresult => .pure fun s hs => ⟨hresult, _, ⟨?_, ?_⟩, hs⟩
    · intro pair _
      exact heldPosition_report app entity body documents pair
    · intro _ positions h pair
      exact (heldPosition_report app entity body documents pair).trans (h pair)

/-- After a run of calls the documents represent the map that the calls lead to. -/
theorem brings_calls (app : String) (calls : List StoreCall) (hcalls : ∀ call ∈ calls, call.IsPlain)
    (positions : String × Int → Option Int) (h : Represents app documents positions) :
    Brings (Holds · (remembering documents)) (calls.mapM (StoreCall.perform w app))
      fun results s => (∀ succeeded ∈ results, succeeded = true) ∧ ∃ documents',
        Represents app documents' (calls.foldl StoreCall.update positions) ∧
          Holds s (remembering documents') := by
  -- The documents are those in front of the first call, so they change along the induction.
  induction calls generalizing documents positions with
  | nil => exact .pure fun s hs => ⟨nofun, documents, h, hs⟩
  | cons call calls ih =>
    rw [List.forall_mem_cons] at hcalls
    rw [List.mapM_cons]
    refine (brings_perform hw app call).bind fun succeeded => .given ?_
    rintro rfl
    refine .exists fun documents' => .given fun ⟨_, hupdate⟩ => ?_
    refine (ih hcalls.2 _ (hupdate hcalls.1 positions h)).bind fun results => ?_
    exact .pure fun s ⟨hresults, hs⟩ => ⟨List.forall_mem_cons.2 ⟨rfl, hresults⟩, hs⟩

end

/-- What the store of an entity finds for a log file after some steps. -/
def foundPosition {σ : Type} (w : World σ) (app : String) (t : Tape σ) (pair : String × Int) :
    Except StatusFault (Option Int) :=
  ((CheckpointStore.ofEntity pair.1 app).lastPosition w pair.2 t).1

/-- **The stored positions are a map.** Let the status service remember posts, and be empty at
first. Whatever stores of one application do, every call succeeds, and a look-up for an entity and
a log file finds the position stored last for this pair, or none if none was stored. In particular
a further call changes what is found for a pair only if it stores a checkpoint of that pair. -/
theorem positions_refine_map {σ : Type} {w : World σ} {Holds : σ → PlayedService → Prop}
    (hw : Plays w Holds) (app : String) (calls : List StoreCall)
    (hcalls : ∀ call ∈ calls, call.IsPlain) (t t' : Tape σ) (results : List Bool)
    (hempty : Holds t.world (remembering []))
    (hrun : calls.mapM (StoreCall.perform w app) t = (results, t')) :
    (∀ succeeded ∈ results, succeeded = true) ∧
      (∀ pair, foundPosition w app t' pair =
        .ok (calls.foldl StoreCall.update (fun _ => none) pair)) ∧
      ∀ (call : StoreCall) (pair : String × Int), ¬ call.Commits pair →
        foundPosition w app (call.perform w app t').2 pair = foundPosition w app t' pair := by
  have hfind : ∀ {documents : List (String × String)} (t : Tape σ) (pair : String × Int),
      Holds t.world (remembering documents) →
        foundPosition w app t pair = heldPosition app documents pair := by
    intro documents t pair ht
    exact (brings_lastPosition hw app pair.1 pair.2 t ht).1
  obtain ⟨hresults, documents, hmap, hholds⟩ :=
    brings_calls hw app calls hcalls _ (represents_nil app) t hempty
  rw [hrun] at hholds hresults
  refine ⟨hresults, ?_, ?_⟩
  · intro pair
    rw [hfind t' pair hholds]
    exact hmap pair
  · intro call pair hcall
    obtain ⟨-, documents', ⟨hsame, -⟩, hholds'⟩ := brings_perform hw app call t' hholds
    rw [hfind _ pair hholds', hfind t' pair hholds]
    exact hsame pair hcall

/-- Two positions of one pair, one of another entity and a report in between. -/
def mixedCalls : List StoreCall :=
  [.commit "fw1" ⟨"fw1", 7, 5, "fw.log"⟩, .report "fw1" false,
    .commit "7@fw1" ⟨"7@fw1", 7, -9, "fw.log"⟩, .commit "fw1" ⟨"fw1", 7, 12, "a.log"⟩]

/-- The later position of a pair is found, also after another report. -/
theorem positions_refine_map_mixed :
    let start : Tape Stage :=
      ⟨{ Stage.bare .universal 0 with status := .played (remembering []) }, []⟩
    let finish := (mixedCalls.mapM (StoreCall.perform Stage.world "app") start).2
    foundPosition Stage.world "app" finish ("fw1", 7) = .ok (some 12) ∧
      foundPosition Stage.world "app" finish ("7@fw1", 7) = .ok (some (-9)) ∧
      foundPosition Stage.world "app" finish ("fw1", 77) = .ok none ∧
      foundPosition Stage.world "app"
        ((StoreCall.report "fw1" true).perform Stage.world "app" finish).2 ("fw1", 7) =
          .ok (some 12) := by
  intro start finish
  have hcalls : ∀ call ∈ mixedCalls, call.IsPlain := by
    simp only [mixedCalls, List.forall_mem_cons]
    exact ⟨⟨by decide, by decide, by decide⟩, trivial, ⟨by decide, by decide, by decide⟩,
      ⟨by decide, by decide, by decide⟩, nofun⟩
  obtain ⟨-, hmap, hframe⟩ := positions_refine_map plays_stage "app" mixedCalls hcalls start finish
    _ rfl rfl
  have hfound : foundPosition Stage.world "app" finish ("fw1", 7) = .ok (some 12) := hmap _
  exact ⟨hfound, hmap _, hmap _, (hframe (.report "fw1" true) ("fw1", 7) not_false).trans hfound⟩

end LogCollector
