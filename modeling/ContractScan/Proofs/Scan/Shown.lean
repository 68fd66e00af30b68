import ContractScan.Proofs.Pattern.Search
import ContractScan.Proofs.Scan.Sites
import ContractScan.Proofs.Source.Lines

/-! # What the snippet of a finding shows

Every finding of a scan reports a match of some rule in some file. The snippet is
made of whole lines around the beginning of the match, so a match that goes over
at most three line feeds is shown in it from end to end.
-/

namespace ContractScan

open Pattern

/-- Every finding reports a match that occurs in the files. -/
def ReportSites (registry : Registry) (files : List SourceFile) (rules : List Rule)
    (family : Family) (findings : List Finding) : Prop :=
  ∀ finding ∈ findings, ∃ site ordinal,
    Site.Occurs registry files rules family site ∧ site.Reports family ordinal finding

section Runs

variable {registry : Registry} {files : List SourceFile} {rules : List Rule} {family : Family}
  {findings findings' : List Finding}

theorem ReportSites.append (h : ReportSites registry files rules family findings)
    (h' : ReportSites registry files rules family findings') :
    ReportSites registry files rules family (findings ++ findings') :=
  List.forall_mem_append.mpr ⟨h, h'⟩

theorem addMatch_reportSites {site : Site} {firstOrdinal : Nat}
    (hsite : site.Occurs registry files rules family)
    (hfindings : ReportSites registry files rules family findings)
    (h : addMatch family site.file.path (Source.index site.file.content.toList) firstOrdinal
      site.rule findings site.found = .ok findings') :
    ReportSites registry files rules family findings' := by
  simp only [addMatch, bind_eq_ok_iff, pure_eq_ok_iff] at h
  obtain ⟨finding, hfinding, rfl⟩ := h
  refine hfindings.append (List.forall_mem_singleton.mpr ?_)
  unfold buildFinding at hfinding
  split at hfinding
  · cases hfinding
  next tool _ =>
    cases hfinding
    exact ⟨site, _, hsite, site.finding_reports family tool (firstOrdinal + findings.length)⟩

theorem addRule_reportSites {file : SourceFile} {rule : Rule} {firstOrdinal : Nat}
    (hfile : file ∈ files) (hextension : file.path.endsWith family.extension = true)
    (hrule : rule ∈ rules) (hfindings : ReportSites registry files rules family findings)
    (h : addRule registry family file.path (Source.index file.content.toList) firstOrdinal
      findings rule = .ok findings') :
    ReportSites registry files rules family findings' := by
  obtain ⟨i, hi⟩ := List.mem_iff_getElem?.mp hfile
  obtain ⟨j, hj⟩ := List.mem_iff_getElem?.mp hrule
  obtain ⟨ms, hms, h⟩ := bind_eq_ok_iff.mp h
  have hfound : rule.foundIn registry file.content.toList = ms := by
    change rule.matchesIn registry file.content.toList = .ok ms at hms
    rw [Rule.foundIn, hms]
    rfl
  refine foldlM_preserves ?_ hfindings h
  intro findings m hm findings'
  obtain ⟨k, hk⟩ := List.mem_iff_getElem?.mp hm
  rw [← hfound] at hk
  obtain ⟨happlies, hmatch⟩ := Rule.getElem?_foundIn.mp hk
  have hsite : Site.Occurs registry files rules family ⟨i, j, k, file, rule, m⟩ :=
    ⟨hi, hextension, hj, happlies, hmatch⟩
  exact addMatch_reportSites hsite

theorem addFile_reportSites {file : SourceFile} (hfile : file ∈ files)
    (hextension : file.path.endsWith family.extension = true)
    (hfindings : ReportSites registry files rules family findings)
    (h : addFile registry rules family findings file = .ok findings') :
    ReportSites registry files rules family findings' := by
  simp only [addFile, bind_eq_ok_iff, pure_eq_ok_iff] at h
  obtain ⟨more, hmore, rfl⟩ := h
  refine hfindings.append ?_
  exact foldlM_preserves (fun _ _ hrule _ => addRule_reportSites hfile hextension hrule)
    (List.forall_mem_nil _) hmore

theorem scan_reportSites {ruleSet : RuleSet}
    (h : (scan registry files ruleSet family).value = .ok findings) :
    ReportSites registry files ruleSet.rules family findings := by
  rw [value_scan] at h
  refine foldlM_preserves ?_ (List.forall_mem_nil _) h
  intro findings file hfile findings'
  obtain ⟨hfile, hextension⟩ := List.mem_filter.mp hfile
  exact addFile_reportSites hfile hextension

/-- A match is shown by the lines around its beginning, unless it goes over too many. -/
theorem Site.Occurs.chars_infix_snippet {site : Site} (h : site.Occurs registry files rules family)
    (hfeeds : site.found.chars.count '\n' ≤ 3) : site.found.chars <:+: site.context.snippet := by
  obtain ⟨node, -, hfound⟩ := h.found
  obtain ⟨start, width, hbound, hfirst, -, hchars⟩ :=
    exists_span_of_mem_findAll (List.mem_of_getElem? hfound)
  have hshows : site.context.ShowsLines site.file.content.toList start := by
    rw [Site.context, hfirst]
    exact Source.showsLines_contextAt (by omega)
  refine hshows.part _ ?_ hfeeds
  rw [hchars]
  exact List.take_prefix _ _

end Runs

/-- The context of a place tells its line and shows the lines around it, and a finding shows all of
its match that has at most three line feeds. -/
theorem snippet_shows_match :
    (∀ text, Source.joinLines (Source.lines text) = text ∧
      ∀ line ∈ Source.lines text, '\n' ∉ line) ∧
    (∀ (text : List Char) (offset : Nat), offset ≤ text.length →
      (Source.contextAt text offset).ShowsLines text offset) ∧
    ∀ (registry : Registry) (files : List SourceFile) (ruleSet : RuleSet) (family : Family)
      (findings : List Finding), (scan registry files ruleSet family).value = .ok findings →
      ∀ finding ∈ findings, ∃ site ordinal,
        Site.Occurs registry files ruleSet.rules family site ∧
        site.Reports family ordinal finding ∧
        (site.found.chars.count '\n' ≤ 3 →
          site.found.chars <:+: finding.codeSnippet.toList) := by
  refine ⟨fun text => ⟨Source.joinLines_lines text, fun _ => Source.feed_not_mem_of_mem_lines⟩,
    fun _ _ => Source.showsLines_contextAt, ?_⟩
  intro registry files ruleSet family findings hscan finding hfinding
  obtain ⟨site, ordinal, hoccurs, hreports⟩ := scan_reportSites hscan finding hfinding
  refine ⟨site, ordinal, hoccurs, hreports, fun hfeeds => ?_⟩
  rw [hreports.codeSnippet, String.toList_ofList]
  exact hoccurs.chars_infix_snippet hfeeds

def spanRules : RuleSet where
  name := "span"
  rules := [
    { id := "S", name := "n", severity := .low, pattern := "first\\n[a-z\\n]*last",
      description := "d", recommendation := "r" }]

def spanFiles : List SourceFile :=
  [⟨"a.sol", "before\nin first\nsecond\nthird\nlast in\nafter\n"⟩]

theorem snippet_shows_match_span :
    (Source.contextAt "a\nb\n".toList 4).ShowsLines "a\nb\n".toList 4 ∧
      ∃ findings, (scan .builtin spanFiles spanRules .arc).value = .ok findings ∧
        ∃ finding ∈ findings, finding.lineNumber = 2 ∧
          "first\nsecond\nthird\nlast".toList <:+: finding.codeSnippet.toList := by
  have hreported : (scan .builtin spanFiles spanRules .arc).value.toOption.map
      (·.map fun finding => (finding.lineNumber, finding.exploitability)) =
      some [(2, "Pattern match: " ++ "first\nsecond\nthird\nlast")] := by decide +kernel
  obtain ⟨findings, hfindings, hreported⟩ := Option.map_eq_some_iff.mp hreported
  have hscan := toOption_eq_some_iff.mp hfindings
  obtain ⟨finding, rfl, hfinding⟩ := List.map_eq_singleton_iff.mp hreported
  obtain ⟨hline, hmatched⟩ := Prod.mk.inj hfinding
  have hmem : finding ∈ [finding] := List.mem_singleton_self finding
  obtain ⟨site, ordinal, -, hreports, hshown⟩ :=
    snippet_shows_match.2.2 _ _ _ _ _ hscan finding hmem
  have htext : site.found.text = "first\nsecond\nthird\nlast" :=
    String.append_right_inj _ |>.mp (hreports.exploitability.symm.trans hmatched)
  have hchars : site.found.chars = "first\nsecond\nthird\nlast".toList := by
    rw [← htext, Found.text, String.toList_ofList]
  refine ⟨snippet_shows_match.2.1 _ 4 (by decide), _, hscan, finding, hmem, hline, ?_⟩
  rw [hchars] at hshown
  exact hshown (by decide)

end ContractScan
