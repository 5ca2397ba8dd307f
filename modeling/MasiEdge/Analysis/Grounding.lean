/-
What enters an analysis artifact (`graph.py`: `_grounding`, `_explanation_metadata`, `_artifact`).

The last two stages of the graph filter what the provider stated and what the tools explained, and assemble the artifact.
Provider and tools are not trusted: they may answer whatever their schemas accept.

* `artifact_lawful_iff`: an artifact is lawful exactly if the metadata that the tools supply would pass the filter, every
  accepted explanation cites one piece of evidence, and no recommendation or content is dropped while the outcome is
  `succeeded`. All else that the law asks holds always.
* `dropped_and_unfiltered`: an artifact that violates all three.

Premises: none about `require_safe_output` (with the secrets of the provider), the search for causal words and the size of an
artifact. They are parameters.
-/
import MasiEdge.Error

namespace MasiEdge.Analysis

open List

inductive Method | logisticContribution | treeShap | reconstructionResidual | otherQualified

structure ExplanationMetadata where
  method : Method
  backgroundDigest : Option String
  modelDigest : String
  scalerDigest : Option String
  sampleDigest : String
  coverage : ℚ
  truncated : Bool
  limitations : List String

structure GroundedClaim where
  claim : String
  evidenceRefs : List String
deriving DecidableEq

structure ModelExplanationFact extends GroundedClaim where
  metadata : ExplanationMetadata

/-- the `explanation` of a tool: its `evidence_id`, and its metadata if they are complete and meet their schema -/
structure ToolResult where
  explanation : Option (String × Option ExplanationMetadata)

inductive Skill | analyzeNidsIncident | compareEventWindows | draftMitigationAdvice | generateIncidentContent
deriving DecidableEq

inductive InputQuality | valid | part | low | stale | invalid
deriving DecidableEq

inductive Quality | valid | limited | low | invalid

inductive Outcome | succeeded | limited | insufficientEvidence | failed
deriving DecidableEq

structure FrozenInput where
  skill : Skill
  evidenceRefs : List String
  modelResultEvidenceRefs : List String
  modelExplanationEvidenceRefs : List String
  quality : InputQuality
  artifactBytes : ℕ
  expiresAtUnixMs : ℤ
  unique : evidenceRefs.Nodup
  modelResults : modelResultEvidenceRefs ⊆ evidenceRefs
  modelExplanations : modelExplanationEvidenceRefs ⊆ evidenceRefs

structure ProviderResponse where
  outcomeHint : Outcome
  observedClaims : List GroundedClaim
  modelResultFacts : List GroundedClaim
  modelExplanationFacts : List GroundedClaim
  inferredClaims : List String
  uncertainties : List String
  limitations : List String
  missingEvidence : List String
  recommendations : List String
  generatedContent : List String
  hint : outcomeHint ≠ .failed

structure Recommendation where
  text : String
  risk : String
  preconditions : List String
  expiresAtUnixMs : ℤ
  evidenceRefs : List String

structure Grounded where
  observedClaims : List GroundedClaim
  modelResultFacts : List GroundedClaim
  modelExplanationFacts : List ModelExplanationFact
  inferredClaims : List String
  llmInterpretations : List String
  uncertainties : List String
  limitations : List String
  missingEvidence : List String
  rejected : ℕ

/-- the fields that are not copied from the frozen input; all content is `text/markdown` -/
structure AnalysisArtifact extends Grounded where
  analysisOutcome : Outcome
  quality : Quality
  recommendations : List Recommendation
  generatedContent : List String

def evidenceText : String := "The frozen analysis input contains an authorized evidence reference."
def noLimitation : String := "No additional limitation was reported."
def noGap : String := "No additional evidence gap was reported."
def noContent : String := "Analysis content is limited because no grounded provider content was accepted."

def limitationTexts : List String :=
  ["Model result references were present, but no grounded model-result statement was accepted.",
    "No qualified model-native explanation metadata was available; attribution was not guessed.",
    "One or more ungrounded, unsafe, causal, or incomplete provider statements were rejected.",
    "One or more bounded external analysis dependencies were unavailable or rejected."]

section

variable (requireSafeOutput : String → Option String) (causal : String → Bool) (size : AnalysisArtifact → ℕ)
variable (input : FrozenInput) (response : Option ProviderResponse) (results : List ToolResult) (errors : List String)

/-! ## The stages -/

def sortedSet (refs : List String) : List String := refs.dedup.insertionSort (· ≤ ·)

/-- one round of `claims` -/
def ground (allowed : List String) (value : GroundedClaim) : Option GroundedClaim := do
  let clean ← requireSafeOutput value.claim
  if value.evidenceRefs ⊆ allowed then some ⟨clean, sortedSet value.evidenceRefs⟩ else none

def explanationMetadata (refs : List String) : Option ExplanationMetadata :=
  results.findSome? fun result => do
    let (evidenceId, metadata) ← result.explanation
    if evidenceId ∈ refs then metadata else none

def explain (claim : GroundedClaim) : Option ModelExplanationFact :=
  if causal claim.claim then none
  else (explanationMetadata results claim.evidenceRefs).map fun metadata => { claim with metadata }

/-- how many values a filter rejects -/
def rejectedBy {α β : Type} (f : α → Option β) (values : List α) : ℕ := values.length - (values.filterMap f).length

/-- a list of the response, if there is one -/
def listed {α : Type} (field : ProviderResponse → List α) : List α := (response.map field).getD []

def grounding : Grounded :=
  let ground := ground requireSafeOutput
  let observed := (listed response (·.observedClaims)).filterMap (ground input.evidenceRefs)
  let modelResults := (listed response (·.modelResultFacts)).filterMap (ground input.modelResultEvidenceRefs)
  let claims := (listed response (·.modelExplanationFacts)).filterMap (ground input.modelExplanationEvidenceRefs)
  let explanations := claims.filterMap (explain causal results)
  let clean := fun field => (listed response field).filterMap requireSafeOutput
  let refused := fun field => rejectedBy requireSafeOutput (listed response field)
  let rejected := rejectedBy (ground input.evidenceRefs) (listed response (·.observedClaims)) +
    rejectedBy (ground input.modelResultEvidenceRefs) (listed response (·.modelResultFacts)) +
    rejectedBy (ground input.modelExplanationEvidenceRefs) (listed response (·.modelExplanationFacts)) +
    rejectedBy (explain causal results) claims + refused (·.inferredClaims) + refused (·.inferredClaims) +
    refused (·.uncertainties) + refused (·.limitations) + refused (·.missingEvidence)
  let present := [!input.modelResultEvidenceRefs.isEmpty && modelResults.isEmpty,
    !input.modelExplanationEvidenceRefs.isEmpty && explanations.isEmpty, rejected != 0, !errors.isEmpty]
  { observedClaims := if observed.isEmpty then input.evidenceRefs.head?.toList.map (⟨evidenceText, [·]⟩) else observed
    modelResultFacts := modelResults
    modelExplanationFacts := explanations
    inferredClaims := clean (·.inferredClaims)
    llmInterpretations := clean (·.inferredClaims)
    uncertainties := clean (·.uncertainties)
    limitations := clean (·.limitations) ++ ((limitationTexts.zip present).filter (·.2)).map (·.1)
    missingEvidence := clean (·.missingEvidence)
    rejected }

def judge (rejected : ℕ) : Outcome × Quality :=
  let judged :=
    if input.quality = .low ∨ input.quality = .part ∨ errors ≠ [] ∨ rejected ≠ 0 then
      (.limited, if input.quality = .low then .low else .limited)
    else match response with
      | none => (.insufficientEvidence, .limited)
      | some response => (response.outcomeHint, if response.outcomeHint = .succeeded then .valid else .limited)
  if input.evidenceRefs = [] then (.insufficientEvidence, .limited) else judged

def assemble : AnalysisArtifact :=
  let grounded := grounding requireSafeOutput causal input response results errors
  let (outcome, quality) := judge input response errors grounded.rejected
  let generated := (listed response (·.generatedContent)).filterMap requireSafeOutput
  { grounded with
    limitations := if grounded.limitations = [] then [noLimitation] else grounded.limitations
    missingEvidence := if grounded.missingEvidence = [] then [noGap] else grounded.missingEvidence
    analysisOutcome := outcome
    quality
    recommendations := ((listed response (·.recommendations)).filterMap requireSafeOutput).map fun text =>
      ⟨text, "human-review-required", ["Re-read current Go-owned facts before any separate proposal."],
        input.expiresAtUnixMs, (sortedSet (grounded.observedClaims.flatMap (·.evidenceRefs))).take 32⟩
    generatedContent := if input.skill = .generateIncidentContent ∧ generated = [] then [noContent] else generated }

/-- `none` is a failed run: a bound of the contract model that an assembled artifact can miss, or its size -/
def artifact : Option AnalysisArtifact :=
  let assembled := assemble requireSafeOutput causal input response results errors
  if (∀ r ∈ assembled.recommendations, r.text ≠ "") ∧ assembled.generatedContent.length ≤ 16 ∧
    size assembled ≤ min input.artifactBytes 65536 then some assembled else none

/-! ## The law -/

/-- a text of the graph itself, or an output of the filter -/
def Safe (text : String) : Prop :=
  text ∈ evidenceText :: noLimitation :: noGap :: noContent :: limitationTexts ∨ ∃ value, requireSafeOutput value = some text

/-- every statement is kept: filtered, and with its references -/
def Carried (values kept : List GroundedClaim) : Prop :=
  ∀ value ∈ values, ∃ c ∈ kept, requireSafeOutput value.claim = some c.claim ∧
    ∀ ref, ref ∈ c.evidenceRefs ↔ ref ∈ value.evidenceRefs

/-- texts are statements without references -/
def plain (texts : List String) : List GroundedClaim := texts.map (⟨·, []⟩)

/-- what the provider stated, and where it goes -/
def routes (a : AnalysisArtifact) : List (List GroundedClaim × List GroundedClaim) :=
  [(listed response (·.observedClaims), a.observedClaims),
    (listed response (·.modelResultFacts), a.modelResultFacts),
    (listed response (·.modelExplanationFacts), a.modelExplanationFacts.map (·.toGroundedClaim)),
    (plain (listed response (·.inferredClaims)), plain a.inferredClaims),
    (plain (listed response (·.inferredClaims)), plain a.llmInterpretations),
    (plain (listed response (·.uncertainties)), plain a.uncertainties),
    (plain (listed response (·.limitations)), plain a.limitations),
    (plain (listed response (·.missingEvidence)), plain a.missingEvidence),
    (plain (listed response (·.recommendations)), plain (a.recommendations.map (·.text))),
    (plain (listed response (·.generatedContent)), plain a.generatedContent)]

def ExplanationMetadata.texts (m : ExplanationMetadata) : List String :=
  m.modelDigest :: m.sampleDigest :: m.backgroundDigest.toList ++ m.scalerDigest.toList ++ m.limitations

structure Lawful (a : AnalysisArtifact) : Prop where
  safe : ∀ r ∈ routes response a, ∀ c ∈ r.2, Safe requireSafeOutput c.claim
  observed : ∀ c ∈ a.observedClaims, c.evidenceRefs ⊆ input.evidenceRefs
  modelResults : ∀ c ∈ a.modelResultFacts, c.evidenceRefs ⊆ input.modelResultEvidenceRefs
  explanations : ∀ fact ∈ a.modelExplanationFacts, fact.evidenceRefs ⊆ input.modelExplanationEvidenceRefs
  metadata : ∀ fact ∈ a.modelExplanationFacts, (∀ text ∈ fact.metadata.texts, Safe requireSafeOutput text) ∧
    ∃ id, ⟨some (id, some fact.metadata)⟩ ∈ results ∧ fact.evidenceRefs = [id]
  succeeded : a.analysisOutcome = .succeeded → errors = [] ∧ ∀ r ∈ routes response a, Carried requireSafeOutput r.1 r.2

end

section

-- `f` is `require_safe_output`
variable {f : String → Option String} {causal : String → Bool} {size : AnalysisArtifact → ℕ} {input : FrozenInput}
  {response : Option ProviderResponse} {results : List ToolResult} {errors allowed values : List String}

/-! ## One route -/

theorem rejectedBy_eq_zero {α β : Type} {f : α → Option β} {values : List α} :
    rejectedBy f values = 0 ↔ ∀ v ∈ values, ∃ kept, f v = some kept := by
  have hle : (values.filterMap f).length ≤ values.length := length_filterMap_le f values
  have hsame : rejectedBy f values = 0 ↔ (values.filterMap f).length = values.length := by
    unfold rejectedBy
    omega
  simp only [hsame, filterMap_length_eq_length, Option.isSome_iff_exists]

theorem mem_sortedSet {refs : List String} {ref : String} : ref ∈ sortedSet refs ↔ ref ∈ refs := by
  rw [sortedSet, mem_insertionSort, mem_dedup]

theorem ground_some {value c : GroundedClaim} (h : ground f allowed value = some c) :
    f value.claim = some c.claim ∧ (∀ ref, ref ∈ c.evidenceRefs ↔ ref ∈ value.evidenceRefs) ∧ c.evidenceRefs ⊆ allowed := by
  obtain ⟨clean, hclean, h⟩ := Option.bind_eq_some_iff.1 h
  split at h
  case isTrue hallowed =>
    cases h
    exact ⟨hclean, fun ref => mem_sortedSet, fun ref href => hallowed (mem_sortedSet.1 href)⟩
  case isFalse => cases h

theorem explain_some {claim : GroundedClaim} {fact : ModelExplanationFact} (h : explain causal results claim = some fact) :
    fact.toGroundedClaim = claim ∧ ∃ id ∈ claim.evidenceRefs, ⟨some (id, some fact.metadata)⟩ ∈ results := by
  unfold explain at h
  split at h
  · cases h
  obtain ⟨metadata, hmetadata, rfl⟩ := Option.map_eq_some_iff.1 h
  obtain ⟨result, hresult, hfound⟩ := exists_of_findSome?_eq_some hmetadata
  obtain ⟨⟨id, offered⟩, hoffered, hfound⟩ := Option.bind_eq_some_iff.1 hfound
  obtain ⟨hid, rfl⟩ : id ∈ claim.evidenceRefs ∧ offered = some metadata := by simpa using hfound
  exact ⟨rfl, id, hid, by rwa [← hoffered]⟩

theorem carried_claims {values kept : List GroundedClaim}
    (h : rejectedBy (ground f allowed) values = 0) (hkept : values.filterMap (ground f allowed) ⊆ kept) :
    Carried f values kept := by
  intro value hvalue
  obtain ⟨c, hc⟩ := rejectedBy_eq_zero.1 h value hvalue
  obtain ⟨hclean, hrefs, -⟩ := ground_some hc
  exact ⟨c, hkept (List.mem_filterMap.2 ⟨value, hvalue, hc⟩), hclean, hrefs⟩

theorem carried_plain {kept : List String} (hkept : values.filterMap f ⊆ kept) :
    Carried f (plain values) (plain kept) ↔ rejectedBy f values = 0 := by
  simp only [rejectedBy_eq_zero, Carried, plain, forall_mem_map]
  constructor
  · intro h text htext
    obtain ⟨c, -, hclean, -⟩ := h text htext
    exact ⟨c.claim, hclean⟩
  · intro h text htext
    obtain ⟨clean, hclean⟩ := h text htext
    exact ⟨_, mem_map_of_mem (hkept (List.mem_filterMap.2 ⟨text, htext, hclean⟩)), hclean, fun ref => .rfl⟩

theorem judge_succeeded {rejected : ℕ} (h : (judge input response errors rejected).1 = .succeeded) :
    errors = [] ∧ rejected = 0 := by
  simp only [judge] at h
  split at h
  · cases h
  split at h
  · cases h
  case isFalse hnone =>
    push Not at hnone
    exact hnone.2.2

/-! ## The artifact -/

theorem safe_filterMap : ∀ text ∈ values.filterMap f, Safe f text := by
  intro text htext
  obtain ⟨value, -, hvalue⟩ := List.mem_filterMap.1 htext
  exact .inr ⟨value, hvalue⟩

theorem mem_ground {values : List GroundedClaim} {c : GroundedClaim}
    (hc : c ∈ values.filterMap (ground f allowed)) : Safe f c.claim ∧ c.evidenceRefs ⊆ allowed := by
  obtain ⟨value, -, hvalue⟩ := List.mem_filterMap.1 hc
  obtain ⟨hclean, -, hrefs⟩ := ground_some hvalue
  exact ⟨.inr ⟨value.claim, hclean⟩, hrefs⟩

/-- a list with a text of the graph in place of an empty one, or beside it -/
theorem safe_ite {p : Prop} [Decidable p] {own : String} {texts : List String}
    (hown : own ∈ evidenceText :: noLimitation :: noGap :: noContent :: limitationTexts) (h : ∀ text ∈ texts, Safe f text) :
    ∀ text ∈ (if p then [own] else texts), Safe f text := by
  split
  · simpa using .inl hown
  · exact h

theorem assemble_safe :
    ∀ r ∈ routes response (assemble f causal input response results errors), ∀ c ∈ r.2, Safe f c.claim := by
  simp only [routes, forall_mem_cons, assemble, grounding, plain, forall_mem_map, map_map]
  refine ⟨?_, fun _ hc => (mem_ground hc).1, ?_, safe_filterMap, safe_filterMap, safe_filterMap, safe_ite (by simp) ?_,
    safe_ite (by simp) safe_filterMap, ?_, safe_ite (by simp) safe_filterMap, nofun⟩
  · split
    · exact List.forall_mem_map.2 fun id _ => .inl (by simp)
    · exact fun _ hc => (mem_ground hc).1
  · intro fact hfact
    obtain ⟨claim, hclaim, hexplained⟩ := List.mem_filterMap.1 hfact
    rw [(explain_some hexplained).1]
    exact (mem_ground hclaim).1
  · refine List.forall_mem_append.2 ⟨safe_filterMap, List.forall_mem_map.2 fun pair hpair => .inl ?_⟩
    have hmem : pair.1 ∈ limitationTexts := (of_mem_zip (mem_of_mem_filter hpair)).1
    simp [hmem]
  · exact safe_filterMap

theorem subset_ite {p : Prop} [Decidable p] {α : Type} {own texts : List α} (h : p → texts = []) :
    texts ⊆ if p then own else texts := by
  split
  case isTrue hp => simp [h hp]
  case isFalse => exact List.Subset.refl _

/-- what is counted is carried; recommendations and content are not counted -/
theorem assemble_carried_iff (hsucceeded : (assemble f causal input response results errors).analysisOutcome = .succeeded) :
    (∀ r ∈ routes response (assemble f causal input response results errors), Carried f r.1 r.2) ↔
      rejectedBy f (listed response (·.recommendations)) = 0 ∧ rejectedBy f (listed response (·.generatedContent)) = 0 := by
  have hcount := (judge_succeeded hsucceeded).2
  simp only [grounding, Nat.add_eq_zero_iff] at hcount
  obtain ⟨⟨⟨⟨⟨⟨⟨⟨hobserved, hresults⟩, hclaims⟩, hexplained⟩, hinferred⟩, -⟩, huncertain⟩, hlimits⟩, hmissing⟩ := hcount
  have hrecommended : (listed response (·.recommendations)).filterMap f ⊆
      (assemble f causal input response results errors).recommendations.map (·.text) := by
    simp [assemble, Function.comp_def]
  have hgenerated : (listed response (·.generatedContent)).filterMap f ⊆
      (assemble f causal input response results errors).generatedContent := subset_ite And.right
  simp only [routes, forall_mem_cons]
  constructor
  · rintro ⟨-, -, -, -, -, -, -, -, hrecommendations, hcontent, -⟩
    exact ⟨(carried_plain hrecommended).1 hrecommendations, (carried_plain hgenerated).1 hcontent⟩
  · rintro ⟨hrecommendations, hcontent⟩
    refine ⟨carried_claims hobserved (subset_ite List.isEmpty_iff.1), carried_claims hresults (List.Subset.refl _),
      carried_claims hclaims fun claim hclaim => ?_, (carried_plain (List.Subset.refl _)).2 hinferred,
      (carried_plain (List.Subset.refl _)).2 hinferred, (carried_plain (List.Subset.refl _)).2 huncertain,
      (carried_plain (List.Subset.trans (subset_append_left _ _) (subset_ite fun h => h))).2 hlimits,
      (carried_plain (subset_ite fun h => h)).2 hmissing, (carried_plain hrecommended).2 hrecommendations,
      (carried_plain hgenerated).2 hcontent, nofun⟩
    obtain ⟨fact, hfact⟩ := rejectedBy_eq_zero.1 hexplained claim hclaim
    exact List.mem_map.2 ⟨fact, List.mem_filterMap.2 ⟨claim, hclaim, hfact⟩, (explain_some hfact).1⟩

/-- **Only sanitized and grounded content enters an artifact**, exactly if the metadata of every accepted explanation would pass
the filter and the explanation cites one piece of evidence, and an artifact that succeeds drops no recommendation or content. -/
theorem artifact_lawful_iff {a : AnalysisArtifact} (h : artifact f causal size input response results errors = some a) :
    Lawful f input response results errors a ↔
      (∀ value ∈ listed response (·.modelExplanationFacts), ∀ claim fact,
        ground f input.modelExplanationEvidenceRefs value = some claim → explain causal results claim = some fact →
          (∀ text ∈ fact.metadata.texts, Safe f text) ∧ ∃ id, fact.evidenceRefs = [id]) ∧
      (a.analysisOutcome = .succeeded → rejectedBy f (listed response (·.recommendations)) = 0 ∧
        rejectedBy f (listed response (·.generatedContent)) = 0) := by
  obtain ⟨-, hsome⟩ := Option.ite_none_right_eq_some.1 h
  cases hsome
  constructor
  · intro hlawful
    refine ⟨fun value hvalue claim fact hclaim hfact => ?_, fun hsucceeded => ?_⟩
    · have hmem := List.mem_filterMap.2 ⟨claim, List.mem_filterMap.2 ⟨value, hvalue, hclaim⟩, hfact⟩
      obtain ⟨hsafe, id, -, hid⟩ := hlawful.metadata fact hmem
      exact ⟨hsafe, id, hid⟩
    · exact (assemble_carried_iff hsucceeded).1 (hlawful.succeeded hsucceeded).2
  · rintro ⟨hmetadata, hdropped⟩
    refine ⟨assemble_safe, ?_, fun _ hc => (mem_ground hc).2, ?_, ?_, fun hsucceeded => ⟨(judge_succeeded hsucceeded).1,
      (assemble_carried_iff hsucceeded).2 (hdropped hsucceeded)⟩⟩
    · simp only [assemble, grounding]
      split
      · refine List.forall_mem_map.2 fun id hid => ?_
        simpa using mem_of_mem_head? (Option.mem_toList.1 hid)
      · exact fun _ hc => (mem_ground hc).2
    · intro fact hfact
      obtain ⟨claim, hclaim, hexplained⟩ := List.mem_filterMap.1 hfact
      rw [(explain_some hexplained).1]
      exact (mem_ground hclaim).2
    · intro fact hfact
      obtain ⟨claim, hclaim, hexplained⟩ := List.mem_filterMap.1 hfact
      obtain ⟨value, hvalue, hgrounded⟩ := List.mem_filterMap.1 hclaim
      obtain ⟨hsafe, id, hone⟩ := hmetadata value hvalue claim fact hgrounded hexplained
      obtain ⟨hsame, cited, hcited, hresult⟩ := explain_some hexplained
      rw [← hsame, hone, mem_singleton] at hcited
      exact ⟨hsafe, id, hcited ▸ hresult, hone⟩

end

def frozen : FrozenInput :=
  ⟨.analyzeNidsIncident, ["e1", "e2"], [], ["e1", "e2"], .valid, 65536, 1, by decide, nofun, by decide⟩

/-- a provider that explains `refs` and recommends `text` -/
def explaining (refs : List String) (text : String) : Option ProviderResponse :=
  some ⟨.succeeded, [], [], [⟨"Feature weights.", refs⟩], [], [], [], [], [text], [], nofun⟩

def zeroDigest : String := "sha256:0000000000000000000000000000000000000000000000000000000000000000"

def weights (limitation : String) : List ToolResult :=
  [⟨some ("e1", some ⟨.treeShap, none, zeroDigest, none, zeroDigest, 1, false, [limitation]⟩)⟩]

/-- `require_safe_output` on the texts below -/
def noUrls (text : String) : Option String := if text = "https://tool" ∨ text = "Deploy now." then none else some text

def ended (refs : List String) (text limitation : String) : Option AnalysisArtifact :=
  artifact noUrls (fun _ => false) (fun _ => 0) frozen (explaining refs text) (weights limitation) []

/-- one piece of evidence, and nothing unsafe -/
theorem explained_lawful : ∃ a, ended ["e1"] "Watch." "One sample." = some a ∧
    Lawful noUrls frozen (explaining ["e1"] "Watch.") (weights "One sample.") [] a := by
  obtain ⟨a, ha⟩ := Option.isSome_iff_exists.1 (by decide +kernel : (ended ["e1"] "Watch." "One sample.").isSome)
  refine ⟨a, ha, (artifact_lawful_iff ha).2 ⟨?_, fun _ => by decide +kernel⟩⟩
  intro value hvalue claim fact hclaim hfact
  obtain rfl : value = ⟨"Feature weights.", ["e1"]⟩ := List.mem_singleton.1 hvalue
  obtain rfl : ⟨"Feature weights.", ["e1"]⟩ = claim := Option.some.inj hclaim
  cases hfact
  have hpass : ∀ text ∈ [zeroDigest, zeroDigest, "One sample."], noUrls text = some text := by decide
  exact ⟨fun text htext => .inr ⟨text, hpass text htext⟩, "e1", rfl⟩

/-- **What is dropped, and what is not filtered.** The outcome is `succeeded` although the one recommendation was refused; a
limitation of the tool that the filter refuses stands in the artifact; and the metadata of `e1` stand for `e2` too. -/
theorem dropped_and_unfiltered : ∃ a, ended ["e1", "e2"] "Deploy now." "https://tool" = some a ∧
    a.analysisOutcome = .succeeded ∧ a.recommendations.length = 0 ∧
    a.modelExplanationFacts.map (fun fact => (fact.evidenceRefs, fact.metadata.limitations)) =
      [(["e1", "e2"], ["https://tool"])] ∧
    ¬ Lawful noUrls frozen (explaining ["e1", "e2"] "Deploy now.") (weights "https://tool") [] a := by
  let view (a : AnalysisArtifact) := (a.analysisOutcome, a.recommendations.length,
    a.modelExplanationFacts.map fun fact => (fact.evidenceRefs, fact.metadata.limitations))
  have hview : (ended ["e1", "e2"] "Deploy now." "https://tool").map view =
      some (.succeeded, 0, [(["e1", "e2"], ["https://tool"])]) := by decide +kernel
  obtain ⟨a, ha, hview⟩ := Option.map_eq_some_iff.1 hview
  obtain ⟨houtcome, hnone, hfacts⟩ : _ ∧ _ ∧ _ := by simpa only [view, Prod.mk.injEq] using hview
  refine ⟨a, ha, houtcome, hnone, hfacts, fun hlawful => ?_⟩
  obtain ⟨c, hc, -⟩ := (hlawful.succeeded houtcome).2 (plain ["Deploy now."], plain (a.recommendations.map (·.text)))
    (by simp [routes, listed, explaining]) ⟨"Deploy now.", []⟩ (by simp [plain])
  simp [List.length_eq_zero_iff.1 hnone, plain] at hc

end MasiEdge.Analysis
