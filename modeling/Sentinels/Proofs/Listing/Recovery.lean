import Sentinels.Listing
import Sentinels.Proofs.Decimal
import Sentinels.Proofs.Text

/-!
# What a listing tells

Names go into a listing as they are, quotes and commas included, and stand in two kinds of lines.
Still a listing tells what was found: as long as no name breaks a line, the lines can be told apart
and counted, a row holds the name twice, so its length tells that of the name, and once the name is
known the items of its array are what is left of the other line (`extraction_recovered`).
-/

set_option autoImplicit false

namespace Sentinels

/-- Are the codes integers, and does every name stand in one line? -/
structure Extraction.IsPlain (found : Extraction) : Prop where
  names : ∀ name ∈ found.table.names, '\n' ∉ name
  codes : ∀ entry ∈ found.table, ∀ code, .code code ∈ entry.2 → code.IsInteger

namespace Listing

/-- Does everything that a configuration adds to a listing stand in one line? -/
structure IsOneLine (config : Config) : Prop where
  header : '\n' ∉ config.header
  arraySuffix : '\n' ∉ config.arraySuffix
  structType : '\n' ∉ config.structType
  tableName : '\n' ∉ config.tableName

variable {config : Config}

/-! ## Items -/

/-- A character that is no part of an integer is in no item, the null pointer apart. -/
theorem notMem_items {c : Char} {values : List Sentinel}
    (hcodes : ∀ code, .code code ∈ values → code.IsInteger) (hminus : c ≠ '-')
    (hdigit : c.isDigit = false) (hnull : c ∉ Sentinel.text .null) :
    ∀ item ∈ items config values, c ∉ item := by
  have hinteger : ∀ text : Text, text.IsInteger → c ∉ text := by
    intro text htext hc
    rcases htext.eq_or_isDigit hc with heq | hd
    · exact hminus heq
    · exact absurd hd (by simp [hdigit])
  intro item hitem
  rcases List.mem_append.1 hitem with hvalue | hlast
  · obtain ⟨value, hmem, rfl⟩ := List.mem_map.1 hvalue
    cases value with
    | code code => exact hinteger code (hcodes code hmem)
    | null => exact hnull
    | generic =>
      have hgeneric : Sentinel.text .generic = Text.ofInt (-1) := by decide
      exact hinteger _ (hgeneric ▸ Text.isInteger_ofInt (-1))
  · rw [List.mem_singleton.1 hlast]
    exact hinteger _ (Text.isInteger_ofInt config.terminator)

/-- An array line tells the displayed values once the name is known. -/
theorem map_text_eq_of_arrayLine_eq {name : Text} {values values' : List Sentinel}
    (hcodes : ∀ code, .code code ∈ values → code.IsInteger)
    (hcodes' : ∀ code, .code code ∈ values' → code.IsInteger)
    (h : arrayLine config (name, values) = arrayLine config (name, values')) :
    values.map Sentinel.text = values'.map Sentinel.text := by
  have hjoin : Text.join [',', ' '] (items config values) =
      Text.join [',', ' '] (items config values') :=
    List.append_cancel_left (List.append_cancel_right h)
  have hcomma : ∀ {vs : List Sentinel}, (∀ code, .code code ∈ vs → code.IsInteger) →
      ∀ item ∈ items config vs, ',' ∉ item :=
    fun hvs => notMem_items hvs (by decide) (by decide) (by decide)
  have hitems : items config values = items config values' :=
    Text.join_injective (by simp [items]) (by simp [items]) (hcomma hcodes) (hcomma hcodes') hjoin
  exact List.append_cancel_right hitems

/-! ## Rows -/

/-- A row holds the name twice. -/
theorem length_row (name : Text) :
    (row config name).length = 2 * name.length + config.arraySuffix.length + 9 := by
  simp only [row, arrayName, List.length_append, List.length_cons, List.length_nil]
  omega

/-- Names are told apart by their rows. -/
theorem row_injective : Function.Injective (row config) := by
  intro name name' h
  have hlength : name.length = name'.length := by
    have heq := congrArg List.length h
    rw [length_row, length_row] at heq
    omega
  simp only [row, List.append_assoc] at h
  exact (List.append_inj (List.append_cancel_left h) hlength).1

/-! ## Lines -/

/-- The line of an array is one line. -/
theorem newline_notMem_arrayLine (hconfig : IsOneLine config) {entry : Text × List Sentinel}
    (hname : '\n' ∉ entry.1) (hcodes : ∀ code, .code code ∈ entry.2 → code.IsInteger) :
    '\n' ∉ arrayLine config entry := by
  have hitem : ∀ item ∈ items config entry.2, '\n' ∉ item :=
    notMem_items hcodes (by decide) (by decide) (by decide)
  have hitems : '\n' ∉ Text.join [',', ' '] (items config entry.2) :=
    Text.notMem_join (by decide) hitem
  unfold arrayLine arrayName
  simp [hname, hitems, hconfig.arraySuffix]

/-- A row is one line. -/
theorem newline_notMem_row (hconfig : IsOneLine config) {name : Text} (hname : '\n' ∉ name) :
    '\n' ∉ row config name := by
  unfold row arrayName
  simp [hname, hconfig.arraySuffix]

/-- The line with the header is one line. -/
theorem newline_notMem_includeLine (hconfig : IsOneLine config) :
    '\n' ∉ includeLine config := by
  unfold includeLine
  simp [hconfig.header]

/-- The line that opens the table is one line. -/
theorem newline_notMem_tableLine (hconfig : IsOneLine config) :
    '\n' ∉ tableLine config := by
  unfold tableLine
  simp [hconfig.structType, hconfig.tableName]

/-- The line with the count is one line. -/
theorem newline_notMem_countLine (count : Nat) : '\n' ∉ countLine count := by
  have hcount : '\n' ∉ Text.ofNat count := fun hmem =>
    absurd (Text.isDigit_of_mem_ofNat hmem) (by decide)
  unfold countLine
  simp [hcount]

/-- Every line of a listing is one line. -/
theorem newline_notMem_of_mem_lines (hconfig : IsOneLine config) {found : Extraction}
    (hfound : found.IsPlain) : ∀ line ∈ lines config found, '\n' ∉ line := by
  have hname : ∀ entry ∈ found.table, '\n' ∉ entry.1 := fun entry hentry =>
    hfound.names _ (List.mem_map_of_mem hentry)
  intro line hline
  simp only [lines, List.mem_append, List.mem_cons, List.mem_map, List.not_mem_nil, or_false]
    at hline
  rcases hline with (((rfl | ⟨entry, hentry, rfl⟩) | rfl | rfl) | ⟨entry, hentry, rfl⟩) | rfl | rfl
  · exact newline_notMem_includeLine hconfig
  · exact newline_notMem_arrayLine hconfig (hname entry hentry) (hfound.codes entry hentry)
  · exact List.not_mem_nil
  · exact newline_notMem_tableLine hconfig
  · exact newline_notMem_row hconfig (hname entry hentry)
  · decide
  · exact newline_notMem_countLine _

/-- The parts of a listing can be told apart by their numbers of lines. -/
theorem parts_eq_of_lines_eq {found found' : Extraction}
    (h : lines config found = lines config found') :
    found.table.map (arrayLine config) = found'.table.map (arrayLine config) ∧
      found.table.names = found'.table.names ∧ found.voidCount = found'.voidCount := by
  have hlength : found.table.length = found'.table.length := by
    have heq := congrArg List.length h
    simp only [lines, List.length_append, List.length_cons, List.length_nil, List.length_map] at heq
    omega
  simp only [lines, List.append_assoc] at h
  obtain ⟨harrays, hbehind⟩ := List.append_inj (List.append_cancel_left h) (by simp [hlength])
  obtain ⟨hrows, hend⟩ := List.append_inj (List.append_cancel_left hbehind) (by simp [hlength])
  have hcount : countLine found.voidCount = countLine found'.voidCount := by simpa using hend
  have hnames : found.table.names.map (row config) = found'.table.names.map (row config) := by
    rw [Table.names, Table.names, List.map_map, List.map_map]
    exact hrows
  exact ⟨harrays, row_injective.list_map hnames,
    Text.ofNat_injective (List.append_cancel_left (List.append_cancel_right hcount))⟩

/-- Tables with the same names and the same array lines display the same values. -/
theorem displayed_eq_of_arrayLine_eq {table table' : Table}
    (hcodes : ∀ entry ∈ table, ∀ code, .code code ∈ entry.2 → code.IsInteger)
    (hcodes' : ∀ entry ∈ table', ∀ code, .code code ∈ entry.2 → code.IsInteger)
    (hnames : table.names = table'.names)
    (harrays : table.map (arrayLine config) = table'.map (arrayLine config)) :
    table.map (fun entry => (entry.1, entry.2.map Sentinel.text)) =
      table'.map (fun entry => (entry.1, entry.2.map Sentinel.text)) := by
  induction table generalizing table' with
  | nil => cases table' with
    | nil => rfl
    | cons entry' table' => simp at harrays
  | cons entry table ih =>
    cases table' with
    | nil => simp at harrays
    | cons entry' table' =>
      obtain ⟨name, values⟩ := entry
      obtain ⟨name', values'⟩ := entry'
      obtain ⟨rfl, hothers⟩ : name = name' ∧ Table.names table = Table.names table' :=
        List.cons.inj hnames
      obtain ⟨harray, harrays⟩ := List.cons.inj harrays
      have hvalues := map_text_eq_of_arrayLine_eq (hcodes _ List.mem_cons_self)
        (hcodes' _ List.mem_cons_self) harray
      have hrest := ih (fun e he => hcodes e (List.mem_cons_of_mem _ he))
        (fun e he => hcodes' e (List.mem_cons_of_mem _ he)) hothers harrays
      simp only [List.map_cons, hvalues, hrest]

/--
**A listing tells what was found.** If what the configuration adds to a listing and the names of two
extractions stand in one line each and the codes are integers, then two extractions with the same
listing have the same names in the same order, display the same values under each name and count
the same number of silent functions.
-/
theorem extraction_recovered (config : Config) (hconfig : IsOneLine config)
    (found found' : Extraction) (hfound : found.IsPlain) (hfound' : found'.IsPlain)
    (h : Text.join ['\n'] (lines config found) = Text.join ['\n'] (lines config found')) :
    found.table.names = found'.table.names ∧
      found.table.map (fun entry => (entry.1, entry.2.map Sentinel.text)) =
        found'.table.map (fun entry => (entry.1, entry.2.map Sentinel.text)) ∧
      found.voidCount = found'.voidCount := by
  have hlines : lines config found = lines config found' :=
    Text.join_injective (by simp [lines]) (by simp [lines])
      (newline_notMem_of_mem_lines hconfig hfound) (newline_notMem_of_mem_lines hconfig hfound') h
  obtain ⟨harrays, hnames, hcount⟩ := parts_eq_of_lines_eq hlines
  exact ⟨hnames, displayed_eq_of_arrayLine_eq hfound.codes hfound'.codes hnames harrays, hcount⟩

/-- What the default configuration adds to a listing stands in one line each. -/
theorem isOneLine_default : IsOneLine .default where
  header := by decide
  arraySuffix := by decide
  structType := by decide
  tableName := by decide

/-- A table with names that hold what stands around them in a listing. -/
def quotedTable (value : Sentinel) : Table :=
  [("a\", a_man_errors \x7d,".toList, [.null, value]), ("[] = \x7b-1, 12345".toList, [value])]

/-- The names of that table stand in one line each. -/
theorem isPlain_quotedTable {value : Sentinel}
    (hvalue : ∀ code, value = .code code → code.IsInteger) :
    Extraction.IsPlain ⟨quotedTable value, 2⟩ where
  names := by
    have hnames : ∀ name ∈ (quotedTable .null).names, '\n' ∉ name := by decide
    exact hnames
  codes := by
    intro entry hentry code hcode
    simp only [quotedTable, List.mem_cons, List.not_mem_nil, or_false] at hentry
    rcases hentry with rfl | rfl
    · exact hvalue code (by simpa [eq_comm] using hcode)
    · exact hvalue code (by simpa [eq_comm] using hcode)

/-- A code that reads as the catch-all one gives the same listing and the same displayed values. -/
theorem extraction_recovered_quoted :
    ∃ found found' : Extraction, found ≠ found' ∧
      found.table.names = ["a\", a_man_errors \x7d,".toList, "[] = \x7b-1, 12345".toList] ∧
      Text.join ['\n'] (lines .default found) = Text.join ['\n'] (lines .default found') ∧
      found.table.map (fun entry => (entry.1, entry.2.map Sentinel.text)) =
        found'.table.map (fun entry => (entry.1, entry.2.map Sentinel.text)) := by
  have hgeneric : Extraction.IsPlain ⟨quotedTable .generic, 2⟩ :=
    isPlain_quotedTable fun code hcode => by simp at hcode
  have hcode : Extraction.IsPlain ⟨quotedTable (.code ['-', '1']), 2⟩ :=
    isPlain_quotedTable fun code hcode => by
      obtain rfl := Sentinel.code.inj hcode
      exact Text.isInteger_ofInt (-1)
  have hsame : Text.join ['\n'] (lines .default ⟨quotedTable .generic, 2⟩) =
      Text.join ['\n'] (lines .default ⟨quotedTable (.code ['-', '1']), 2⟩) := rfl
  exact ⟨_, _, by decide, rfl, hsame,
    (extraction_recovered .default isOneLine_default _ _ hgeneric hcode hsame).2.1⟩

end Listing

end Sentinels
