import ColabPlatform.Common.Auth
import ColabPlatform.Foundation.KeyStore
import ColabPlatform.Foundation.Run
import ColabPlatform.Moderation.Scan
import Mathlib.Analysis.Real.Sqrt

/-!
# Moderation service: duplicates of banned content

The synchronous scans never look into the registries.  The perceptual hash of
an image is reported without a match, and the tool for texts reports a match for
what it has itself recorded in Redis less than a day before.
-/

namespace ColabPlatform.Moderation

open Foundation Common

/-! ## The banned registries -/

/-- `banned_hash_registry` and `banned_text_embeddings` with the thresholds of a match. -/
structure BannedRegistry where
  hashes : List (BitVec 64)
  embeddings : List (List ℝ)
  phashHammingThreshold : Nat := 6
  semdupCosineThreshold : ℝ := 95 / 100

/-- `_hamming_distance` -/
def hammingDistance (h1 h2 : BitVec 64) : Nat :=
  (List.range 64).countP fun i => (h1 ^^^ h2).getLsbD i

def dot (a b : List ℝ) : ℝ := (List.zipWith (· * ·) a b).sum

noncomputable def cosineSimilarity (a b : List ℝ) : ℝ :=
  dot a b / (Real.sqrt (dot a a) * Real.sqrt (dot b b))

namespace BannedRegistry

def BansImage (registry : BannedRegistry) (phash : BitVec 64) : Prop :=
  ∃ banned ∈ registry.hashes, hammingDistance phash banned ≤ registry.phashHammingThreshold

def BansText (registry : BannedRegistry) (embedding : List ℝ) : Prop :=
  ∃ banned ∈ registry.embeddings,
    registry.semdupCosineThreshold ≤ cosineSimilarity embedding banned

end BannedRegistry

/-! ## Scans -/

/-- How the steps of `scan_semdup` end: the lookup in Redis, the embedding with its dimension,
and the record in Redis. -/
structure SemdupOutside where
  lookupFails : Option String
  embedding : Except String Nat
  recordFails : Option String

/-- What Redis holds, the open cases, and for the specification what was recorded when. -/
structure Scanner where
  now : Int
  bloom : KeyStore String Unit
  cases : List AutoCase
  recorded : List (String × Int)

def bloomTtl : Int := 86400

inductive ScanEvent where
  | text (service : String) (body : RequestBody) (openai : ToolRun OpenAIModResult)
      (semdup : SemdupOutside) (caseId : String)
  /-- `phash` is the perceptual hash of the image, `phashFails` what its tool raises -/
  | image (service : String) (body : RequestBody) (rekognition : ToolRun (List Label))
      (phash : BitVec 64) (phashFails : Option String) (caseId : String)
  | elapse (time : Nat)

/-- The deployment, SHA-256 and the embeddings of OpenAI. -/
structure ScanWorld where
  settings : ModerationSettings
  env : String
  digest : String → String
  embed : String → List ℝ

namespace Scanner

def start (now : Int) : Scanner := ⟨now, .empty, [], []⟩

/-- `mod:semdup:bloom:{text_hash}`, by its hash -/
def record (s : Scanner) (key : String) : Scanner :=
  { s with
    bloom := s.bloom.setEx s.now bloomTtl key ()
    recorded := (key, s.now) :: s.recorded }

def semdup (w : ScanWorld) (s : Scanner) (text : String) (outside : SemdupOutside) :
    ToolRun SemdupRun × Scanner :=
  match outside.lookupFails with
  | some error => (.failed error, s)
  | none =>
      if s.bloom.exists? s.now (w.digest text) then (.completed .seen, s)
      else
        match outside.embedding, outside.recordFails with
        | .error error, _ => (.failed error, s)
        | .ok _, some error => (.failed error, s)
        | .ok dimension, none => (.completed (.embedded dimension), s.record (w.digest text))

def deployment (w : ScanWorld) (s : Scanner) (caseId : String) : Deployment :=
  ⟨w.settings, w.env, caseId, s.now, s.cases⟩

/-- The response, if there is one, with the cases that are stored with it. -/
def answered (s : Scanner) (result : Except HttpError (ScanResponse × List AutoCase)) :
    Option ScanResponse × Scanner :=
  match result with
  | .ok (response, cases) => (some response, { s with cases })
  | .error _ => (none, s)

/-- The text of a request that the endpoint accepts. -/
def acceptedText (w : ScanWorld) (service : String) (body : RequestBody) : Option String :=
  match textScanRequest body, requireInternal w.env service with
  | .ok (text, _), .ok _ => some text
  | _, _ => none

def respond (w : ScanWorld) (s : Scanner) : ScanEvent → Option ScanResponse × Scanner
  | .text service body openai outside caseId =>
      match acceptedText w service body with
      | some text =>
          let (run, s') := s.semdup w text outside
          s'.answered (scanText (s.deployment w caseId) service body openai run)
      | none => (none, s)
  | .image service body rekognition phash phashFails caseId =>
      let run := match phashFails with
        | some error => .failed error
        | none => .completed phash.toHex
      s.answered (scanImage (s.deployment w caseId) service body rekognition run)
  | .elapse time => (none, { s with now := s.now + time })

def step (w : ScanWorld) (s : Scanner) (e : ScanEvent) : Scanner := (s.respond w e).2

end Scanner

/-! ## Banned content and the bump -/

/-- The dup bump is part of the score. -/
def ScanResponse.Bumped (response : ScanResponse) : Prop :=
  response.breakdown.dup.anyMatch = true

instance (response : ScanResponse) : Decidable response.Bumped :=
  inferInstanceAs (Decidable (_ = true))

/-- The content that is scanned matches an entry of a registry. -/
def ScanEvent.Banned (w : ScanWorld) (registry : BannedRegistry) : ScanEvent → Prop
  | text service body _ _ _ =>
      ∃ text, Scanner.acceptedText w service body = some text ∧ registry.BansText (w.embed text)
  | image _ _ _ phash _ _ => registry.BansImage phash
  | elapse _ => False

/-- The score of a response includes the bump exactly for banned content. -/
def Scanner.BumpsExactly (w : ScanWorld) (registry : BannedRegistry) (s : Scanner)
    (e : ScanEvent) : Prop :=
  ∀ response, (s.respond w e).1 = some response → (response.Bumped ↔ e.Banned w registry)

/-- A scan has recorded a text of this hash less than a day before. -/
def Scanner.Recent (s : Scanner) (key : String) : Prop :=
  ∃ time, (key, time) ∈ s.recorded ∧ s.now < time + bloomTtl

/-- No image is banned, and the texts that are banned are those that were recorded. -/
def Scanner.keepsExact (w : ScanWorld) (registry : BannedRegistry) (s : Scanner)
    (e : ScanEvent) : Prop :=
  (s.respond w e).1.isSome →
    match e with
    | .text service body _ outside _ => ∀ text, acceptedText w service body = some text →
        (outside.lookupFails = none ∧ s.Recent (w.digest text) ↔ registry.BansText (w.embed text))
    | .image _ _ _ phash _ _ => ¬ registry.BansImage phash
    | .elapse _ => True

/-! ## What Redis holds -/

/-- A key is there for a day after the last time that it was recorded. -/
structure Scanner.Records (s : Scanner) : Prop where
  absent : ∀ key, s.bloom.entries key = none → ∀ time, (key, time) ∉ s.recorded
  stored : ∀ key entry, s.bloom.entries key = some entry → ∃ time, (key, time) ∈ s.recorded ∧
    entry.deadline = some (time + bloomTtl) ∧ ∀ earlier, (key, earlier) ∈ s.recorded → earlier ≤ time
  past : ∀ key time, (key, time) ∈ s.recorded → time ≤ s.now

namespace Scanner

variable {s : Scanner}

theorem Records.exists_iff (records : s.Records) (key : String) :
    s.bloom.exists? s.now key = true ↔ s.Recent key := by
  unfold KeyStore.exists? KeyStore.get Recent
  cases held : s.bloom.entries key with
  | none =>
      have never := records.absent key held
      simp [never]
  | some entry =>
      obtain ⟨time, recorded, deadline, latest⟩ := records.stored key entry held
      simp only [KeyStore.Stamped.alive, deadline, Option.all_some, decide_eq_true_eq]
      constructor
      · intro alive
        refine ⟨time, recorded, ?_⟩
        by_contra expired
        rw [if_neg expired] at alive
        cases alive
      · rintro ⟨earlier, mem, lasts⟩
        have le := latest earlier mem
        rw [if_pos (by omega)]
        rfl

theorem records_start (now : Int) : (start now).Records := by
  constructor <;> simp [start]

theorem Records.record (records : s.Records) (key : String) : (s.record key).Records where
  absent other none time mem := by
    simp only [Scanner.record, KeyStore.entries_setEx] at none
    split_ifs at none with same
    rcases List.mem_cons.1 mem with now | old
    · exact same (Prod.mk.inj now).1
    · exact records.absent other none time old
  stored other entry held := by
    simp only [Scanner.record, KeyStore.entries_setEx] at held
    split_ifs at held with same
    · obtain rfl := Option.some.inj held
      subst same
      refine ⟨s.now, List.mem_cons_self, rfl, fun earlier mem => ?_⟩
      rcases List.mem_cons.1 mem with now | old
      · exact (Prod.mk.inj now).2.le
      · exact records.past other earlier old
    · obtain ⟨time, mem, deadline, latest⟩ := records.stored other entry held
      refine ⟨time, List.mem_cons_of_mem _ mem, deadline, fun earlier again => ?_⟩
      rcases List.mem_cons.1 again with now | old
      · exact absurd (Prod.mk.inj now).1 same
      · exact latest earlier old
  past other time mem := by
    rcases List.mem_cons.1 mem with now | old
    · exact (Prod.mk.inj now).2.le
    · exact records.past other time old

theorem Records.semdup (records : s.Records) (w : ScanWorld) (text : String)
    (outside : SemdupOutside) : (s.semdup w text outside).2.Records := by
  unfold Scanner.semdup
  split
  · exact records
  · split
    · exact records
    · split
      · exact records
      · exact records
      · exact records.record _

theorem Records.answered (records : s.Records)
    (result : Except HttpError (ScanResponse × List AutoCase)) :
    (s.answered result).2.Records := by
  unfold Scanner.answered
  split
  · exact ⟨records.absent, records.stored, records.past⟩
  · exact records

theorem Records.step (records : s.Records) (w : ScanWorld) (e : ScanEvent) :
    (step w s e).Records := by
  cases e with
  | text service body openai outside caseId =>
      unfold Scanner.step respond
      dsimp only
      split
      · exact (records.semdup w _ outside).answered _
      · exact records
  | image service body rekognition phash phashFails caseId => exact records.answered _
  | elapse time =>
      refine ⟨records.absent, records.stored, fun key recorded mem => ?_⟩
      have before := records.past key recorded mem
      change recorded ≤ s.now + time
      omega

end Scanner

/-! ## Which scores include the bump -/

/-- The response reports what the content was routed by. -/
def ScanResponse.Reports (response : ScanResponse) (routing : RoutingResult) : Prop :=
  response.score = routing.score ∧ response.breakdown = routing.breakdown

theorem answer_reports {settings : ModerationSettings} {routing : RoutingResult}
    {ctx : ScanContext} {subject caseId : String} {now : Int} {cases stored : List AutoCase}
    {response : ScanResponse}
    (answered : answer settings routing ctx subject caseId now cases = .ok (response, stored)) :
    response.Reports routing := by
  unfold answer at answered
  obtain ⟨_, -, answered⟩ := bind_eq_ok.1 answered
  obtain ⟨case, -, answered⟩ := bind_eq_ok.1 answered
  dsimp only at answered
  split_ifs at answered
  cases answered
  exact ⟨rfl, rfl⟩

section Answered

variable {d : Deployment} {service : String} {body : RequestBody} {response : ScanResponse}
  {stored : List AutoCase}

theorem scanText_reports {openai : ToolRun OpenAIModResult} {run : ToolRun SemdupRun}
    (answered : scanText d service body openai run = .ok (response, stored)) :
    response.Reports (routeText d.settings openai run) := by
  unfold scanText at answered
  obtain ⟨request, -, answered⟩ := bind_eq_ok.1 answered
  obtain ⟨_, -, answered⟩ := bind_eq_ok.1 answered
  exact answer_reports answered

theorem scanImage_reports {rekognition : ToolRun (List Label)} {run : ToolRun String}
    (answered : scanImage d service body rekognition run = .ok (response, stored)) :
    response.Reports (routeImage d.settings rekognition run) := by
  unfold scanImage at answered
  obtain ⟨request, -, answered⟩ := bind_eq_ok.1 answered
  obtain ⟨_, -, answered⟩ := bind_eq_ok.1 answered
  exact answer_reports answered

/-- The score of a text is what the moderation makes of it with the bump, if there is one. -/
theorem scanText_score {openai : ToolRun OpenAIModResult} {run : ToolRun SemdupRun}
    (answered : scanText d service body openai run = .ok (response, stored)) :
    response.score = round4 (min 1 (max (textWeighted (scanOpenaiText openai).result)
      (imageWeighted []) + if response.Bumped then d.settings.dupBump else 0)) := by
  obtain ⟨score, breakdown⟩ := scanText_reports answered
  simp only [ScanResponse.Bumped, score, breakdown]
  rfl

theorem scanImage_score {rekognition : ToolRun (List Label)} {run : ToolRun String}
    (answered : scanImage d service body rekognition run = .ok (response, stored)) :
    response.score = round4 (min 1 (max (textWeighted cleanModeration)
      (imageWeighted (scanRekognitionImage rekognition).result) +
        if response.Bumped then d.settings.dupBump else 0)) := by
  obtain ⟨score, breakdown⟩ := scanImage_reports answered
  simp only [ScanResponse.Bumped, score, breakdown]
  rfl

theorem bumped_scanText {openai : ToolRun OpenAIModResult} {run : ToolRun SemdupRun}
    (answered : scanText d service body openai run = .ok (response, stored)) :
    response.Bumped ↔ run = .completed .seen := by
  rw [ScanResponse.Bumped, (scanText_reports answered).2]
  cases run with
  | failed error =>
      simp [routeText, buildRoutingResult, breakdown, DupResult.anyMatch, scanSemdup,
        ToolRun.report]
  | completed result =>
      cases result <;> simp [routeText, buildRoutingResult, breakdown, DupResult.anyMatch,
        scanSemdup, ToolRun.report, SemdupRun.result]

theorem not_bumped_scanImage {rekognition : ToolRun (List Label)} {run : ToolRun String}
    (answered : scanImage d service body rekognition run = .ok (response, stored)) :
    ¬ response.Bumped := by
  rw [ScanResponse.Bumped, (scanImage_reports answered).2]
  cases run <;> simp [routeImage, buildRoutingResult, breakdown, DupResult.anyMatch, scanPhash,
    ToolRun.report]

end Answered

namespace Scanner

variable {w : ScanWorld} {registry : BannedRegistry} {s : Scanner}

theorem answered_eq_some {result : Except HttpError (ScanResponse × List AutoCase)}
    {response : ScanResponse} (some_response : (s.answered result).1 = some response) :
    ∃ stored, result = .ok (response, stored) := by
  unfold answered at some_response
  cases result with
  | error error => cases some_response
  | ok answer =>
      obtain rfl := Option.some.inj some_response
      exact ⟨answer.2, rfl⟩

/-- The tool has seen what is recorded, if it gets that far. -/
theorem semdup_seen_iff (records : s.Records) (text : String) (outside : SemdupOutside) :
    (s.semdup w text outside).1 = .completed .seen ↔
      outside.lookupFails = none ∧ s.Recent (w.digest text) := by
  rw [← records.exists_iff]
  unfold semdup
  cases lookup : outside.lookupFails with
  | some error => simp
  | none =>
      by_cases seen : s.bloom.exists? s.now (w.digest text) = true
      · simp [seen]
      · simp only [seen, Bool.false_eq_true, if_false, and_false, iff_false]
        cases outside.embedding with
        | error error => simp
        | ok dimension => cases outside.recordFails <;> simp

theorem bumped_text (records : s.Records) {service text : String} {body : RequestBody}
    (accepted : acceptedText w service body = some text) {openai : ToolRun OpenAIModResult}
    {outside : SemdupOutside} {caseId : String} {response : ScanResponse}
    (responded : (s.respond w (.text service body openai outside caseId)).1 = some response) :
    response.Bumped ↔ outside.lookupFails = none ∧ s.Recent (w.digest text) := by
  unfold respond at responded
  dsimp only at responded
  rw [accepted] at responded
  obtain ⟨stored, answered⟩ := answered_eq_some responded
  rw [bumped_scanText answered, semdup_seen_iff records]

/-- A scan bumps as it should exactly when what it goes by agrees with the registry. -/
theorem bumpsExactly_iff (records : s.Records) (e : ScanEvent) :
    s.BumpsExactly w registry e ↔ s.keepsExact w registry e := by
  unfold BumpsExactly keepsExact
  rw [Option.isSome_iff_exists, forall_exists_index]
  apply forall_congr'
  intro response
  refine forall_congr' fun responded => ?_
  cases e with
  | text service body openai outside caseId =>
      dsimp only
      cases accepted : acceptedText w service body with
      | none =>
          simp only [respond, accepted] at responded
          cases responded
      | some text =>
          rw [bumped_text records accepted responded]
          simp [ScanEvent.Banned, accepted]
  | image service body rekognition phash phashFails caseId =>
      obtain ⟨stored, answered⟩ := answered_eq_some responded
      have clean := not_bumped_scanImage answered
      simp [clean, ScanEvent.Banned]
  | elapse time => cases responded

end Scanner

/-- Throughout a run of scans the bump is part of exactly the scores of banned content, if and
only if no image is banned and the banned texts are those that were recorded a day ago
or less. -/
theorem bumps_exactly_iff (w : ScanWorld) (registry : BannedRegistry) (now : Int)
    (events : List ScanEvent) :
    Guarded (Scanner.step w) (Scanner.BumpsExactly w registry) (Scanner.start now) events ↔
      Guarded (Scanner.step w) (Scanner.keepsExact w registry) (Scanner.start now) events :=
  guarded_iff_of_invariant (fun s e (records : s.Records) => records.step w e)
    (fun s e (records : s.Records) => Scanner.bumpsExactly_iff records e)
    (Scanner.records_start now) events

/-- Nothing is banned, and a greeting that is sent twice is bumped the second time. -/
theorem not_exact : ¬ ∀ (w : ScanWorld) (registry : BannedRegistry) (now : Int)
    (events : List ScanEvent),
    Guarded (Scanner.step w) (Scanner.BumpsExactly w registry) (Scanner.start now) events := by
  intro exact
  let w : ScanWorld := ⟨{}, "production", id, fun _ => []⟩
  let ctx : ScanContext := ⟨some "msg", .uuid "message", .uuid "sender", none⟩
  let scan : ScanEvent := .text "chat-svc" (.json ⟨some "hello", none, some ctx⟩)
    (.completed cleanModeration) ⟨none, .ok 3072, none⟩ "case"
  have second := (exact w { hashes := [], embeddings := [] } 0 [scan, scan]).2.1
  have bumped : (((Scanner.start 0).step w scan).respond w scan).1.any (·.Bumped) = true := by
    decide +kernel
  obtain ⟨response, responded, bump⟩ := (Option.any_eq_true _ _).1 bumped
  obtain ⟨text, accepted, banned, absent, close⟩ :=
    (second response responded).1 (of_decide_eq_true bump)
  cases absent

end ColabPlatform.Moderation
