import TagCatalog.CommandLine.Session
import TagCatalog.Proofs.Command.Identity
import TagCatalog.Proofs.Command.Journal
import TagCatalog.Proofs.Disk.Parent
import TagCatalog.Proofs.Tag.Text

/-!
# Tags as they are printed

Without colours, the tags of a file are printed as their texts, each with the end of a line
behind it.  There are no blanks in these texts where the names of tags have no fault, and no two
such tags have the same text.  So what is printed determines the tags of a file, in the stores
that calls reach from an empty one.
-/

namespace TagCatalog

namespace Text

variable {texts others : List String}

def lines : List String → String
  | [] => ""
  | text :: rest => text ++ "\n" ++ lines rest

theorem divide_lines (unended : ∀ text ∈ texts, '\n' ∉ text.toList) :
    divide '\n' (lines texts).toList = texts.map String.toList ++ [[]] := by
  induction texts with
  | nil => rfl
  | cons text rest inductionHypothesis =>
      obtain ⟨textUnended, restUnended⟩ := List.forall_mem_cons.mp unended
      have parts : (lines (text :: rest)).toList = text.toList ++ '\n' :: (lines rest).toList := by
        simp [lines]
      rw [parts, divide_append _ textUnended, inductionHypothesis restUnended]
      rfl

theorem eq_of_lines_eq (unended : ∀ text ∈ texts, '\n' ∉ text.toList)
    (otherUnended : ∀ text ∈ others, '\n' ∉ text.toList) (same : lines texts = lines others) :
    texts = others := by
  have divided := divide_lines unended
  rw [same, divide_lines otherUnended] at divided
  exact (List.map_inj_right fun _ _ => String.toList_inj.mp).mp
    (List.append_cancel_right divided).symm

end Text

/-- Tags with faultless names can be told from their lines. -/
theorem Tag.eq_of_lines_eq {tags others : List Tag}
    (free : ∀ tag ∈ tags, Name.fault? tag.name = none)
    (otherFree : ∀ tag ∈ others, Name.fault? tag.name = none)
    (same : Text.lines (tags.map text) = Text.lines (others.map text)) : tags = others := by
  have unended {listed : List Tag} (listedFree : ∀ tag ∈ listed, Name.fault? tag.name = none) :
      ∀ line ∈ listed.map text, '\n' ∉ line.toList := by
    refine List.forall_mem_map.mpr fun tag membership ended => ?_
    exact absurd (unbroken_text (listedFree tag membership) _ ended) (by decide)
  have sameTexts := Text.eq_of_lines_eq (unended free) (unended otherFree) same
  exact eq_of_map_text_eq free otherFree sameTexts

namespace CommandLine

open Store Command

theorem standard_foldl_addLine (texts : List String) (output : Output) :
    (texts.foldl Output.addLine output).standard = output.standard ++ Text.lines texts := by
  induction texts generalizing output with
  | nil => simp [Text.lines]
  | cons text rest inductionHypothesis =>
      rw [List.foldl_cons, inductionHypothesis]
      simp [Output.addLine, Text.lines, String.append_assoc]

theorem standard_foldl_addDiagnostic (texts : List String) (output : Output) :
    (texts.foldl Output.addDiagnostic output).standard = output.standard := by
  induction texts generalizing output with
  | nil => rfl
  | cons text rest inductionHypothesis => rw [List.foldl_cons, inductionHypothesis]; rfl

namespace Display

variable {display : Display}

theorem tag_eq_text (plain : display.colours = false) (tag : Tag) : display.tag tag = tag.text := by
  rw [Display.tag, Tag.text, plain]
  cases tag.value <;> rfl

theorem standard_report_get (plain : display.colours = false) (output : Output)
    (affected : List File) (tags : List Tag) :
    (display.report .get output { affected, tags }).standard =
      output.standard ++ Text.lines (tags.map Tag.text) := by
  have texts : tags.map display.tag = tags.map Tag.text :=
    List.map_congr_left fun tag _ => tag_eq_text plain tag
  exact texts ▸ standard_foldl_addLine (tags.map display.tag) output

end Display

variable {State : Type} {store : Store State} {state : State} {database : Database} {file : File}
  {selector printed : String} {report : Report} {tags : List Tag}

/-- Whether a text is printed without colours when a command gets the tags of a file, which
some selector names. -/
def Prints (store : Store State) (state : State) (file : File) (printed : String) : Prop :=
  ∃ (selector : String) (report : Report) (display : Display),
    (Command.tags store selector state).1 = .ok report ∧ report.affected = [file] ∧
    display.colours = false ∧ (display.report .get {} report).standard = printed

/-- The stores that calls reach from an empty one. -/
inductive Reached : {State : Type} → Store State → State → Prop where
  | memory {memory : Memory} : ReachesMemory memory → Reached Memory.store memory
  | disk {path : String} {disk : Disk} :
      ReachesDisk path disk → Reached (OnDisk.store path) disk

theorem exists_of_tags (asks : store.AsksSilently)
    (done : (Command.tags store selector state).1 = .ok report) :
    ∃ file tags, (resolveText store selector state).1 = .ok file ∧
      (store.tags file state).1 = .ok tags ∧ report = { affected := [file], tags } := by
  obtain ⟨file, resolved, done⟩ :=
    Action.exists_of_silent_bind (silent_resolveText asks selector) (Prod.ext done rfl)
  obtain ⟨tags, carried, done⟩ := Action.exists_of_silent_bind (asks.tags file) done
  have same : { affected := [file], tags } = report := Except.ok.inj (congrArg Prod.fst done)
  exact ⟨file, tags, resolved, carried, same.symm⟩

theorem prints_iff (reflects : store.Reflects state database)
    (registered : file ∈ database.allFiles)
    (carried : (store.tags file state).1 = .ok tags) :
    Prints store state file printed ↔ printed = Text.lines (tags.map Tag.text) := by
  have asks := reflects.asks
  constructor
  · rintro ⟨selector, report, display, done, affected, plain, rfl⟩
    obtain ⟨found, others, -, otherCarried, rfl⟩ := exists_of_tags asks done
    cases List.singleton_inj.mp affected
    rw [carried] at otherCarried
    cases otherCarried
    rw [Display.standard_report_get plain]
    exact String.empty_append
  · rintro rfl
    have resolved :=
      resolveText_of_ofText_id reflects (Selector.ofText_text_id file.id) registered
    have done := tags_of_resolves asks (congrArg Prod.fst resolved) carried
    refine ⟨_, _, ⟨false, false⟩, congrArg Prod.fst done, rfl, rfl, ?_⟩
    rw [Display.standard_report_get rfl]
    exact String.empty_append

theorem Reached.exists_sound (reached : Reached store state)
    (registered : Registered store state file) :
    ∃ database : Database, store.Reflects state database ∧ database.Sound := by
  cases reached with
  | memory reached =>
      obtain ⟨database, rfl, sound⟩ := sound_of_reachesMemory reached
      exact ⟨database, reflects_memory sound.consistent, sound⟩
  | disk reached =>
      obtain ⟨time, isListed⟩ := registered_iff_exists_isListed.mp registered
      obtain ⟨loaded, isLoaded⟩ := exists_load_of_isListed isListed
      rcases (secure_of_reachesDisk reached).leadsToSound with
        isDirectory | ⟨database, sameLoaded, sound⟩
      · rw [OnDisk.load_of_directory isDirectory] at isLoaded
        cases isLoaded
      · exact ⟨database, reflects_disk sameLoaded, sound⟩

/-- Whether a file has tags with faultless names, and their texts are what is printed. -/
structure PrintsTags (store : Store State) (state : State) (file : File) (tags : List Tag) :
    Prop where
  carried : (store.tags file state).1 = .ok tags
  free : ∀ tag ∈ tags, Tag.Name.fault? tag.name = none
  prints : ∀ printed, Prints store state file printed ↔ printed = Text.lines (tags.map Tag.text)

theorem Reached.exists_printsTags (reached : Reached store state)
    (registered : Registered store state file) : ∃ tags, PrintsTags store state file tags := by
  obtain ⟨database, reflects, sound⟩ := reached.exists_sound registered
  have membership := (registered_iff reflects).mp registered
  obtain ⟨record, present, -⟩ := Database.mem_allFiles_iff.mp membership
  have found := sound.consistent.tags_of_get? present
  have carried := (reflects.tags file).trans found
  exact ⟨_, carried, sound.free_of_tags found, fun _ => prints_iff reflects membership carried⟩

theorem exists_prints_of_run {context : Context} {disk : Disk}
    (plain : context.environment.colours = false) (asked : context.invocation.values = [selector])
    (succeeds : (context.run .get disk).1.code = 0) :
    ∃ file, (resolveText (OnDisk.store context.database) selector disk).1 = .ok file ∧
      Prints (OnDisk.store context.database) disk file (context.run .get disk).1.standard := by
  have commanded : context.command .get =
      Command.tags (Workspace.store context.database) selector := by
    unfold Context.command
    rw [asked]
  have step := journals_tags context.database selector ⟨disk, [.databaseChosen context.database]⟩
  simp only [Context.run, commanded] at succeeds ⊢
  generalize Command.tags (Workspace.store context.database) selector
    ⟨disk, [.databaseChosen context.database]⟩ = result at step succeeds ⊢
  cases result with
  | mk outcome workspace =>
      cases outcome with
      | error => cases succeeds
      | ok report =>
          have done := congrArg Prod.fst step
          obtain ⟨file, tags, resolved, -, rfl⟩ :=
            exists_of_tags (OnDisk.asksSilently context.database) done
          let display : Display := ⟨context.environment.colours, context.invocation.has .long⟩
          -- The log goes to the diagnostics, so nothing is printed in front of the tags.
          refine ⟨file, resolved, selector, _, display, done, rfl, plain, ?_⟩
          rw [Display.standard_report_get plain, Display.standard_report_get plain,
            standard_foldl_addDiagnostic]

/-- No two tags with faultless names have the same text, and there are no blanks in it.  Every
file in a store that calls reach from an empty one has such tags, and is printed as their texts
on a line each, for whatever selector names it.  So any two files in such stores of which the
same is printed have the same tags.  That is what a run prints that gets the tags of a file. -/
theorem tags_eq_of_prints :
    (∀ tag other : Tag, Tag.Name.fault? tag.name = none → Tag.Name.fault? other.name = none →
      tag.text = other.text → tag = other) ∧
    (∀ tag : Tag, Tag.Name.fault? tag.name = none →
      ∀ character ∈ tag.text.toList, Text.isBlank character = false) ∧
    (∀ {State : Type} (store : Store State) state file, Reached store state →
      Registered store state file → ∃ tags, PrintsTags store state file tags) ∧
    (∀ {State Other : Type} (store : Store State) state file (otherStore : Store Other) other
      otherFile printed, Reached store state → Registered store state file →
      Reached otherStore other → Registered otherStore other otherFile →
      Prints store state file printed → Prints otherStore other otherFile printed →
      ∃ tags, (store.tags file state).1 = .ok tags ∧
        (otherStore.tags otherFile other).1 = .ok tags) ∧
    ∀ (context : Context) disk selector, context.environment.colours = false →
      context.invocation.values = [selector] → (context.run .get disk).1.code = 0 →
      ∃ file, (resolveText (OnDisk.store context.database) selector disk).1 = .ok file ∧
        Prints (OnDisk.store context.database) disk file (context.run .get disk).1.standard := by
  refine ⟨fun _ _ => Tag.eq_of_text_eq, fun _ => Tag.unbroken_text,
    fun _ _ _ => Reached.exists_printsTags, ?_, fun _ _ _ => exists_prints_of_run⟩
  intro State Other store state file otherStore other otherFile printed reached registered
    otherReached otherRegistered prints otherPrints
  obtain ⟨tags, printsTags⟩ := reached.exists_printsTags registered
  obtain ⟨others, printsOthers⟩ := otherReached.exists_printsTags otherRegistered
  have sameLines : Text.lines (tags.map Tag.text) = Text.lines (others.map Tag.text) :=
    ((printsTags.prints printed).mp prints).symm.trans
      ((printsOthers.prints printed).mp otherPrints)
  have same : tags = others := Tag.eq_of_lines_eq printsTags.free printsOthers.free sameLines
  exact ⟨tags, printsTags.carried, same ▸ printsOthers.carried⟩

/-- A value, and what is equal to it in 64 bits; two tags that are put on files in either order,
in two memories; a file on a disk that was empty before; and a run on a document. -/
theorem tags_eq_in_either_order :
    let tag : Tag := ⟨"n", some (-5), by decide⟩
    let wrapped : Tag := ⟨"n", some 18446744073709551611, by decide⟩
    let file : File := ⟨⟨1, by decide⟩, "p"⟩
    let other : File := ⟨⟨2, by decide⟩, "q"⟩
    let perform (memory : Memory) (call : Call) : Memory := (call.perform Memory.store memory).2
    let first := [.add Instant.epoch file.id "p", .set "p" "n" (some "-5"),
      .set "p" "a" none].foldl perform .empty
    let second := [.add Instant.epoch other.id "q", .set "q" "a" none,
      .set "q" "n" (some " -5 ")].foldl perform .empty
    let onDisk := OnDisk.store "d/db.json"
    let disk := ((Call.add Instant.epoch file.id "p").perform onDisk ⟨[], Table.empty⟩).2
    let context : Context := ⟨⟨[], false, Instant.epoch, file.id⟩, ⟨some .get, ["a"], none, []⟩,
      "c", ⟨none, "warn"⟩, "db.json"⟩
    (Tag.Name.fault? tag.name = none ∧ tag.text = wrapped.text ∧ tag = wrapped ∧
      ∀ character ∈ tag.text.toList, Text.isBlank character = false) ∧
    (Reached Memory.store first ∧ Registered Memory.store first file ∧
      Prints Memory.store first file "a\nn=-5\n") ∧
    (Reached Memory.store second ∧ Registered Memory.store second other ∧
      Prints Memory.store second other "a\nn=-5\n") ∧
    (∃ tags, (Memory.store.tags file first).1 = .ok tags ∧
      (Memory.store.tags other second).1 = .ok tags) ∧
    (Reached onDisk disk ∧ Registered onDisk disk file ∧
      ∃ tags, PrintsTags onDisk disk file tags) ∧
    ((context.run .get OnDisk.handwrittenDisk).1.code = 0 ∧
      (context.run .get OnDisk.handwrittenDisk).1.standard = "x\ny\n") ∧
    ∃ file, (resolveText (OnDisk.store context.database) "a" OnDisk.handwrittenDisk).1 =
        .ok file ∧
      Prints (OnDisk.store context.database) OnDisk.handwrittenDisk file
        (context.run .get OnDisk.handwrittenDisk).1.standard := by
  intro tag wrapped file other perform first second onDisk disk context
  obtain ⟨injective, unbroken, printsTags, sameTags, runs⟩ := tags_eq_of_prints
  have free : Tag.Name.fault? tag.name = none := by decide +kernel
  have sameText : tag.text = wrapped.text := by decide +kernel
  have firstReached : Reached Memory.store first :=
    .memory (.call _ (.call _ (.call _ .empty)))
  have firstRegistered : Registered Memory.store first file :=
    ⟨{ listed := [⟨file, some Instant.epoch⟩] }, by decide +kernel, List.mem_singleton_self _⟩
  have firstPrints : Prints Memory.store first file "a\nn=-5\n" :=
    ⟨"p", { affected := [file], tags := [⟨"a", none, by decide⟩, tag] }, ⟨false, false⟩,
      by decide +kernel, rfl, rfl, by decide +kernel⟩
  have secondReached : Reached Memory.store second :=
    .memory (.call _ (.call _ (.call _ .empty)))
  have secondRegistered : Registered Memory.store second other :=
    ⟨{ listed := [⟨other, some Instant.epoch⟩] }, by decide +kernel, List.mem_singleton_self _⟩
  have secondPrints : Prints Memory.store second other "a\nn=-5\n" :=
    ⟨"q", { affected := [other], tags := [⟨"a", none, by decide⟩, tag] }, ⟨false, false⟩,
      by decide +kernel, rfl, rfl, by decide +kernel⟩
  have same := sameTags _ _ _ _ _ _ _ firstReached firstRegistered secondReached
    secondRegistered firstPrints secondPrints
  have anchored : Disk.Anchored "d/db.json" ⟨[], Table.empty⟩ :=
    Disk.rooted_empty.anchored (by decide +kernel)
  have diskReached : Reached onDisk disk := .disk (.call _ (.empty (.inl anchored) rfl))
  have onDiskRegistered : Registered onDisk disk file := by
    have added : ((Call.add Instant.epoch file.id "p").perform onDisk ⟨[], Table.empty⟩).1 =
        .ok (.report {
          affected := [file]
          messages := [⟨.success, "Added 00000000-0000-0000-0000-000000000001 p"⟩] }) := by
      decide +kernel
    exact registered_of_reports (follows_disk rfl) (Prod.ext added rfl)
      (.added (List.mem_singleton_self _))
  have shown : (context.run .get OnDisk.handwrittenDisk).1.code = 0 ∧
      (context.run .get OnDisk.handwrittenDisk).1.standard = "x\ny\n" := by
    decide +kernel
  exact ⟨⟨free, sameText, injective tag wrapped free free sameText, unbroken tag free⟩,
    ⟨firstReached, firstRegistered, firstPrints⟩,
    ⟨secondReached, secondRegistered, secondPrints⟩, same,
    ⟨diskReached, onDiskRegistered, printsTags _ _ _ diskReached onDiskRegistered⟩,
    shown, runs context _ "a" (by decide +kernel) rfl shown.1⟩

/-- Two files, of which one has a tag that is named like the text of the tag of the other. -/
def ambiguous : Database :=
  ⟨Table.ofList [(OnDisk.handwrittenId, ⟨"p", Instant.epoch, [⟨"a=1", none⟩]⟩),
    (⟨5, by decide⟩, ⟨"q", Instant.epoch, [⟨"a", some 1⟩]⟩)]⟩

def ambiguousText : String :=
  "\x7b\"files\":\x7b\"00000000000000000000000000000001\":\x7b\"path\":\"p\"," ++
  "\"added_at\":\"1970-01-01T00:00:00Z\",\"tags\":[\x7b\"name\":\"a=1\"\x7d]\x7d," ++
  "\"00000000000000000000000000000005\":\x7b\"path\":\"q\"," ++
  "\"added_at\":\"1970-01-01T00:00:00Z\"," ++
  "\"tags\":[\x7b\"name\":\"a\",\"value\":1\x7d]\x7d\x7d\x7d"

/-- An empty store of which one call, which fails, makes the path lead to an old document.  The
same is printed of two files there that have different tags. -/
theorem ambiguous_behind_missing :
    let file : File := ⟨OnDisk.handwrittenId, "p"⟩
    let other : File := ⟨⟨5, by decide⟩, "q"⟩
    let store := OnDisk.store "x/../db.json"
    let old : Disk := ⟨[], Table.ofList
      [(["db.json"], .file ambiguousText.toUTF8), (["db.json.tmp"], .directory)]⟩
    let add := Call.add Instant.epoch ⟨3, by decide⟩ "b"
    let disclosed := (add.perform store old).2
    ((files store old).1 = .ok {} ∧ (add.perform store old).1 = .error (.disk .isDirectory)) ∧
    (Registered store disclosed file ∧ Registered store disclosed other) ∧
    (Prints store disclosed file "a=1\n" ∧ Prints store disclosed other "a=1\n") ∧
    (store.tags file disclosed).1 = .ok [⟨"a=1", none, by decide⟩] ∧
    (store.tags other disclosed).1 = .ok [⟨"a", some 1, by decide⟩] := by
  intro file other store old add disclosed
  have read : disclosed.readBytes "x/../db.json" = .ok ambiguousText.toUTF8 := by decide +kernel
  have loaded : OnDisk.load "x/../db.json" disclosed = .ok ambiguous := by
    rw [OnDisk.load_of_readBytes read]
    exact OnDisk.eq_ok_of_toOption (by decide +kernel)
  have reflects : store.Reflects disclosed ambiguous := reflects_disk loaded
  have membership : file ∈ ambiguous.allFiles := Database.mem_allFiles_iff.mpr ⟨_, rfl, rfl⟩
  have otherMembership : other ∈ ambiguous.allFiles := Database.mem_allFiles_iff.mpr ⟨_, rfl, rfl⟩
  have carried : (store.tags file disclosed).1 = .ok [⟨"a=1", none, by decide⟩] :=
    (reflects.tags file).trans (by decide +kernel)
  have otherCarried : (store.tags other disclosed).1 = .ok [⟨"a", some 1, by decide⟩] :=
    (reflects.tags other).trans (by decide +kernel)
  exact ⟨⟨by decide +kernel, by decide +kernel⟩,
    ⟨(registered_iff reflects).mpr membership, (registered_iff reflects).mpr otherMembership⟩,
    ⟨(prints_iff reflects membership carried).mpr (by decide +kernel),
      (prints_iff reflects otherMembership otherCarried).mpr (by decide +kernel)⟩,
    carried, otherCarried⟩

end CommandLine

end TagCatalog
