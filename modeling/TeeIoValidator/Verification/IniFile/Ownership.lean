import TeeIoValidator.Verification.IniFile.Rejection

/-! # Strings of the items

An item owns its strings as long as no value has been rejected: a rejected value is the one
way out of the two functions that leaves an item behind.
-/

namespace TeeIoValidator.IniFile

/-! ## Owned strings -/

/-- The item of a section owns a name, the item of an entry also a key and a value. -/
structure SectionItem.Owns (item : SectionItem) : Prop where
  sectionName : ∃ name, item.ptrSection = .live name ∧ name ≠ [] ∧ item.secNameLen = name.length
  entry : item.ptrEntry = .null ∧ item.ptrValue = .null ∨
    ∃ key value, item.ptrEntry = .live key ∧ item.ptrValue = .live value

def IniContext.Owns (ctx : IniContext) : Prop := ∀ item ∈ ctx.sectionHead, item.Owns

theorem sectionItem_owns {name : List UInt8} (h : name ≠ []) : (sectionItem name).Owns where
  sectionName := ⟨name, rfl, h, rfl⟩
  entry := Or.inl ⟨rfl, rfl⟩

/-- An entry copies the section name of the item before it. -/
theorem SectionItem.Owns.entryItem {item : SectionItem} (h : item.Owns) (key value : List UInt8) :
    (entryItem item key value).Owns where
  sectionName := h.sectionName
  entry := Or.inr ⟨key, value, rfl, rfl⟩

theorem freedItem_not_owns (item : SectionItem) : ¬(freedItem item).Owns := by
  intro h
  obtain ⟨name, hname, -⟩ := h.sectionName
  cases hname

theorem IniContext.owns_link {ctx : IniContext} {item : SectionItem} :
    (ctx.link item).Owns ↔ item.Owns ∧ ctx.Owns := List.forall_mem_cons

theorem owns_empty : IniContext.Owns ⟨[], []⟩ := by
  intro item hitem
  cases hitem

/-! ## Feeding lines -/

/-- A line and the function that it is given to. -/
inductive Call where
  | getSection (buffer : List UInt8)
  | getEntry (buffer : List UInt8)

def Call.apply (ctx : IniContext) : Call → Bool × IniContext
  | .getSection buffer => profileGetSection buffer ctx
  | .getEntry buffer => profileGetEntry buffer ctx

/-- The lists after some lines. -/
def afterCalls (calls : List Call) : IniContext :=
  calls.foldl (fun ctx call => (call.apply ctx).2) ⟨[], []⟩

@[simp] theorem afterCalls_append_singleton (calls : List Call) (call : Call) :
    afterCalls (calls ++ [call]) = (call.apply (afterCalls calls)).2 := by
  rw [afterCalls, List.foldl_append]
  rfl

/-- What a line has to leave behind. -/
structure Call.Sound (ctx : IniContext) (call : Call) : Prop where
  owns : (call.apply ctx).2.Owns
  unchanged : (call.apply ctx).1 = false → (call.apply ctx).2 = ctx

/-- An entry below a section, with a legal key and a value that is rejected. -/
inductive Call.LinksRejected (ctx : IniContext) : Call → Prop where
  | getEntry {buffer} (hbelow : ctx.sectionHead ≠ []) (hkey : ¬KeyRejected buffer)
      (hvalue : ValueRejected buffer) : LinksRejected ctx (.getEntry buffer)

section Step

variable {ctx : IniContext} {call : Call}

/-- All other lines are sound. -/
theorem Call.sound_of_not_linksRejected (hctx : ctx.Owns) (h : ¬call.LinksRejected ctx) :
    call.Sound ctx := by
  cases call with
  | getSection buffer =>
      by_cases hrejected : SectionRejected buffer
      · have happly : (Call.getSection buffer).apply ctx = (false, ctx) :=
          profileGetSection_rejected hrejected
        exact ⟨by rwa [happly], fun _ => by rw [happly]⟩
      · have happly : (Call.getSection buffer).apply ctx = _ := profileGetSection_accepted hrejected
        have hname : sectionText buffer ≠ [] := fun hnil => hrejected (.empty hnil)
        refine ⟨?_, ?_⟩
        · rw [happly]
          exact IniContext.owns_link.mpr ⟨sectionItem_owns hname, hctx⟩
        · intro hfalse
          rw [happly] at hfalse
          cases hfalse
  | getEntry buffer =>
      by_cases hkey : KeyRejected buffer
      · have happly : (Call.getEntry buffer).apply ctx = (false, ctx) :=
          profileGetEntry_keyRejected hkey
        exact ⟨by rwa [happly], fun _ => by rw [happly]⟩
      · cases hitems : ctx.sectionHead with
        | nil =>
            have happly : (Call.getEntry buffer).apply ctx = (true, ctx) :=
              profileGetEntry_noSection hkey hitems
            exact ⟨by rwa [happly], fun _ => by rw [happly]⟩
        | cons item items =>
            have hvalue : ¬ValueRejected buffer :=
              fun hvalue => h (.getEntry (by simp [hitems]) hkey hvalue)
            have happly : (Call.getEntry buffer).apply ctx = _ :=
              profileGetEntry_accepted hkey hitems hvalue
            have hitem : item.Owns := hctx item (by simp [hitems])
            refine ⟨?_, ?_⟩
            · rw [happly]
              exact IniContext.owns_link.mpr ⟨hitem.entryItem _ _, hctx⟩
            · intro hfalse
              rw [happly] at hfalse
              cases hfalse

/-- The item that was linked for a rejected value stays, without strings. -/
theorem Call.LinksRejected.apply_eq (h : call.LinksRejected ctx) :
    ∃ item, call.apply ctx = (false, ctx.link (freedItem item)) := by
  cases h with
  | getEntry hbelow hkey hvalue =>
      obtain ⟨item, items, hitems⟩ := List.exists_cons_of_ne_nil hbelow
      exact ⟨item, profileGetEntry_valueRejected hkey hitems hvalue⟩

theorem Call.Sound.not_linksRejected (h : call.Sound ctx) : ¬call.LinksRejected ctx := by
  intro hlinks
  obtain ⟨item, happly⟩ := hlinks.apply_eq
  have hsame := h.unchanged (by rw [happly])
  rw [happly] at hsame
  exact ctx.link_ne _ hsame

end Step

/-! ## Runs -/

/-- The lists are as they should be after each line. -/
def SoundRun (calls : List Call) : Prop :=
  History.Each (fun before call => Call.Sound (afterCalls before) call) calls

/-- No line is an entry below a section whose value is rejected. -/
def NoValueRejected (calls : List Call) : Prop :=
  History.Each (fun before call => ¬Call.LinksRejected (afterCalls before) call) calls

theorem afterCalls_owns {calls : List Call} (h : NoValueRejected calls) :
    (afterCalls calls).Owns := by
  induction calls using List.reverseRecOn with
  | nil => exact owns_empty
  | append_singleton calls call ih =>
      rw [NoValueRejected, History.each_append_singleton] at h
      rw [afterCalls_append_singleton]
      exact (Call.sound_of_not_linksRejected (ih h.1) h.2).owns

/-- Rejected values are all that goes wrong, and each of them does. -/
theorem soundRun_iff (calls : List Call) : SoundRun calls ↔ NoValueRejected calls := by
  constructor
  · intro h
    exact h.mono fun before call => Call.Sound.not_linksRejected
  · intro h
    induction calls using List.reverseRecOn with
    | nil => exact History.each_nil
    | append_singleton calls call ih =>
        rw [NoValueRejected, History.each_append_singleton] at h
        rw [SoundRun, History.each_append_singleton]
        exact ⟨ih h.1, Call.sound_of_not_linksRejected (afterCalls_owns h.1) h.2⟩

/-- `[A]` and then `b=`: the item of the entry has lost its strings. -/
theorem emptyValue_not_sound :
    ¬SoundRun
      [.getSection ("[A]".toList.map Char.toUInt8), .getEntry ("b=".toList.map Char.toUInt8)] := by
  intro h
  have hsound := h [.getSection ("[A]".toList.map Char.toUInt8)] _ [] rfl
  exact freedItem_not_owns _ (hsound.owns _ List.mem_cons_self)

/-! ## Files -/

/-- The line of a file leads to a rejected value below a section. -/
structure LosesStrings (before : List (List UInt8)) (line : List UInt8) : Prop where
  significant : Significant line
  entry : ¬IsSectionLine line
  links : (Call.getEntry (profileTrim line)).LinksRejected (contextAfter before)

theorem contextAfter_append_singleton (lines : List (List UInt8)) (line : List UInt8) :
    contextAfter (lines ++ [line]) = lineEffect (contextAfter lines) line := by
  rw [contextAfter, List.foldl_append]
  rfl

theorem contextAfter_owns {lines : List (List UInt8)}
    (h : History.Each (fun before line => ¬LosesStrings before line) lines) :
    (contextAfter lines).Owns := by
  induction lines using List.reverseRecOn with
  | nil => exact owns_empty
  | append_singleton lines line ih =>
      rw [History.each_append_singleton] at h
      have hctx := ih h.1
      rw [contextAfter_append_singleton]
      by_cases hsection : IsSectionLine line
      · rw [lineEffect_section _ hsection]
        have hsound : (Call.getSection (profileTrim line)).Sound (contextAfter lines) :=
          Call.sound_of_not_linksRejected hctx nofun
        exact hsound.owns
      · by_cases hline : Significant line
        · rw [lineEffect_entry_eq _ hline hsection]
          have hsound : (Call.getEntry (profileTrim line)).Sound (contextAfter lines) :=
            Call.sound_of_not_linksRejected hctx fun hlinks => h.2 ⟨hline, hsection, hlinks⟩
          exact hsound.owns
        · intro item hitem
          rw [lineEffect_insignificant _ hline] at hitem
          exact hctx item hitem

/-- A lookup reads only strings that are there. -/
theorem updateGetProfileString_defined {items : List SectionItem} (h : ∀ item ∈ items, item.Owns)
    (sectionName entryName : List UInt8) :
    updateGetProfileString sectionName entryName items ≠ .undefined := by
  induction items with
  | nil => nofun
  | cons item items ih =>
      have hrest := ih fun i hi => h i (List.mem_cons_of_mem item hi)
      have hitem := h item List.mem_cons_self
      obtain ⟨name, hname, -⟩ := hitem.sectionName
      rw [updateGetProfileString, hname]
      by_cases hsame : sameString name sectionName
      · simp only [hsame, if_true]
        cases hitem.entry with
        | inl hnull =>
            rw [hnull.1]
            exact hrest
        | inr hentry =>
            obtain ⟨key, value, hkey, -⟩ := hentry
            rw [hkey]
            by_cases hkeySame : sameString key entryName
            · simp [hkeySame]
            · simpa [hkeySame] using hrest
      · simpa [hsame] using hrest

/-- A file without a rejected value below a section answers every lookup. -/
theorem getStringFromDataFile_defined (lib : LibspdmStatus) {data : List UInt8}
    (h : History.Each (fun before line => ¬LosesStrings before line) (pieces data))
    (sectionName entryName : List UInt8) :
    getStringFromDataFile (openIniFile lib data) sectionName entryName ≠ .undefined := by
  rw [openIniFile_eq]
  split
  · nofun
  · exact updateGetProfileString_defined (contextAfter_owns h) sectionName entryName

end TeeIoValidator.IniFile
