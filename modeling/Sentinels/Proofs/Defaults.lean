import Sentinels.Proofs.Block.Sequence
import Sentinels.Proofs.Document.TagScan
import Sentinels.Proofs.Pattern.Groups
import Sentinels.Proofs.Sentinel.Integers

/-!
# The default configuration

The patterns of the default configuration compile and have the groups they need, so a run under this
configuration has a result for every document (`tabulate_default`). Its tags are removed by the scan
for them, and its blocks and sentinels are found by two fixed patterns.
-/

set_option autoImplicit false

namespace Sentinels

open Pattern

/-- The patterns of the default configuration compile, and the scan removes its tags. -/
theorem PatternSet.exists_ofConfig_default :
    ∃ tags, ofConfig .default = .ok ⟨tags, ofExpr Config.defaultBlockPattern Block.expr,
        ofExpr Config.defaultSentinelPattern Sentinel.expr⟩ ∧
      ∀ text, Document.withoutTags tags text =
        (Document.scan Config.defaultStrippedTags text).flatMap Document.Piece.rest := by
  have hsize : ∀ source, tagSource? Config.defaultStrippedTags = some source →
      compile source ≠ .error .size := by
    intro source hsource
    obtain rfl := Option.some.inj hsource
    decide +kernel
  obtain ⟨tags, htags, -, hscan⟩ := Document.exists_compileTags hsize
  have hblock : compileFor .block Config.default.blockPattern =
      .ok (ofExpr Config.defaultBlockPattern Block.expr) := by
    rw [compileFor, show Config.default.blockPattern = Config.defaultBlockPattern from rfl,
      Block.compile_defaultBlockPattern]
  have hsentinel : compileFor .sentinel Config.default.sentinelPattern =
      .ok (ofExpr Config.defaultSentinelPattern Sentinel.expr) := by
    rw [compileFor, show Config.default.sentinelPattern = Config.defaultSentinelPattern from rfl,
      Sentinel.compile_defaultSentinelPattern]
  refine ⟨tags, ?_, hscan⟩
  rw [ofConfig, show Config.default.strippedTags = Config.defaultStrippedTags from rfl, htags,
    hblock, hsentinel]
  rfl

/-- The patterns of a configuration are compiled one by one, each from its source. -/
theorem PatternSet.ofConfig_eq_ok_iff {config : Config} {patterns : PatternSet} :
    ofConfig config = .ok patterns ↔
      compileTags config.strippedTags = .ok patterns.tags ∧
        compileFor .block config.blockPattern = .ok patterns.block ∧
        checkGroups .block patterns.block [nameGroup, returnTypeGroup, noteGroup] = .ok () ∧
        compileFor .sentinel config.sentinelPattern = .ok patterns.sentinel ∧
        checkGroups .sentinel patterns.sentinel [valueGroup] = .ok () := by
  unfold ofConfig
  simp only [bind_eq_ok_iff]
  constructor
  · rintro ⟨tags, htags, block, hblock, _, hblockGroups, sentinel, hsentinel, _, hgroups, hset⟩
    obtain rfl := Except.ok.inj hset
    exact ⟨htags, hblock, hblockGroups, hsentinel, hgroups⟩
  · rintro ⟨htags, hblock, hblockGroups, hsentinel, hgroups⟩
    exact ⟨_, htags, _, hblock, _, hblockGroups, _, hsentinel, _, hgroups, rfl⟩

/-- Is this the report of the run over a document under the default configuration? -/
structure Report.IsDefault (document : Text) (r : Report) : Prop where
  report_eq : report .default document = .ok r
  stripped_eq : r.stripped =
    (Document.scan Config.defaultStrippedTags document).flatMap Document.Piece.rest
  blocks_eq : r.blocks =
    Block.findAll .default (ofExpr Config.defaultBlockPattern Block.expr) r.stripped
  extraction_eq : r.extraction =
    Extraction.ofBlocks .default (ofExpr Config.defaultSentinelPattern Sentinel.expr) r.blocks
  output_eq : r.output = Listing.text .default r.extraction

/-- Under the default configuration every document has a report. -/
theorem Report.exists_isDefault (document : Text) : ∃ r, Report.IsDefault document r := by
  obtain ⟨tags, hpatterns, hscan⟩ := PatternSet.exists_ofConfig_default
  refine ⟨Report.ofDocument .default ⟨tags, ofExpr Config.defaultBlockPattern Block.expr,
    ofExpr Config.defaultSentinelPattern Sentinel.expr⟩ document, ?_, hscan document, rfl, rfl, rfl⟩
  rw [report, hpatterns]
  rfl

/-- A report under the default configuration is the one that the document has. -/
theorem Report.isDefault_of_report_eq {document : Text} {r : Report}
    (h : report .default document = .ok r) : Report.IsDefault document r := by
  obtain ⟨found, hfound⟩ := Report.exists_isDefault document
  obtain rfl : found = r := Except.ok.inj (hfound.report_eq.symm.trans h)
  exact hfound

/-- The listing of a document is the output of its report. -/
theorem Report.IsDefault.tabulate_eq {document : Text} {r : Report}
    (h : Report.IsDefault document r) :
    tabulate .default document = .ok (Listing.text .default r.extraction) := by
  rw [tabulate, h.report_eq, ← h.output_eq]
  rfl

/-- Where one entry is left of a document, and none can begin around it, there is one block. -/
theorem Report.IsDefault.blocks_eq_singleton {document front behind : Text} {r : Report}
    (h : Report.IsDefault document r) (e : Block.Entry) (hfront : 'F' ∉ front)
    (hbehind : 'F' ∉ behind) (hstripped : r.stripped = front ++ (e.text ++ '\n' :: behind)) :
    r.blocks = [e.block .default] := by
  have hentries := Block.entriesOf_singleton e front hfront hbehind
  rw [h.blocks_eq, hstripped, hentries.findAll_eq, List.map_singleton]

/-- Under the default configuration a run has a result for every document. -/
theorem tabulate_default (document : Text) :
    tabulate .default document =
      .ok (Listing.text .default (Extraction.ofBlocks .default
        (ofExpr Config.defaultSentinelPattern Sentinel.expr)
        (Block.findAll .default (ofExpr Config.defaultBlockPattern Block.expr)
          ((Document.scan Config.defaultStrippedTags document).flatMap Document.Piece.rest)))) := by
  obtain ⟨tags, hpatterns, hscan⟩ := PatternSet.exists_ofConfig_default
  rw [tabulate, report, hpatterns, ← hscan]
  rfl

end Sentinels
