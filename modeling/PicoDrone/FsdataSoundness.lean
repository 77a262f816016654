import PicoDrone.FsdataRoundTrip

/-! # What the generated page table serves

The search of the server goes through the files from the last to the first
(`abrirDesde_prefix`). What it finds under the name of a file is the page of that
file, as long as the offsets, which count characters, are the lengths of the encoded
names. -/
namespace PicoDrone.FsdataSoundness
open Firmware.Makefsdata Library.CLexer Fsdata FsdataRoundTrip

/-! ## Encoded names -/

theorem utf8_injective {s t : List Char} (h : utf8 s = utf8 t) : s = t := by
  have hbytes : s.utf8Encode = t.utf8Encode := congrArg List.toByteArray h
  have hstring : String.ofList s = String.ofList t :=
    String.toByteArray_inj.mp (by simpa using hbytes)
  exact String.ofList_inj.mp hstring

theorem length_utf8 (s : List Char) :
    s.length ≤ (utf8 s).length ∧ ((utf8 s).length = s.length ↔ ∀ c ∈ s, c.toNat < 128) := by
  induction s with
  | nil => simp [utf8]
  | cons c s ih =>
    obtain ⟨hle, hiff⟩ := ih
    have hcons : (utf8 (c :: s)).length = c.utf8Size + (utf8 s).length := by simp [utf8]
    have hpos := c.utf8Size_pos
    have hone : c.utf8Size = 1 ↔ c.toNat < 128 := by
      rw [Char.utf8Size_eq_one_iff]
      exact Nat.lt_succ_iff.symm
    rw [hcons, List.length_cons, List.forall_mem_cons, ← hone, ← hiff]
    omega

theorem zero_not_mem_encodeChar {c : Char} (h : c ≠ '\x00') : 0 ∉ String.utf8EncodeChar c := by
  have hval : c.val.toNat ≠ 0 := fun h0 => h (Char.toNat_inj.mp h0)
  have hbyte {n : ℕ} (hn : 0 = UInt8.ofNat n) : n % 256 = 0 := by
    simpa using (congrArg UInt8.toNat hn).symm
  intro hmem
  simp only [String.utf8EncodeChar] at hmem
  split at hmem
  · obtain hn : 0 = UInt8.ofNat c.val.toNat := by simpa using hmem
    have := hbyte hn
    omega
  · -- the bytes of longer codes have their top bit set
    have htop {n : ℕ} (hn : 0 = UInt8.ofNat n) (hlo : 128 ≤ n) (hhi : n < 256) : False := by
      have := hbyte hn
      omega
    split at hmem
    · rcases List.mem_pair.mp hmem with hn | hn <;> exact htop hn (by omega) (by omega)
    · split at hmem <;> simp only [List.mem_cons, List.not_mem_nil, or_false] at hmem
      · rcases hmem with hn | hn | hn <;> exact htop hn (by omega) (by omega)
      · rcases hmem with hn | hn | hn | hn <;> exact htop hn (by omega) (by omega)

theorem zero_not_mem_nombre {a : Archivo} (h : Legible a) : 0 ∉ a.nombre := by
  intro hmem
  obtain ⟨c, hc, hzero⟩ := List.mem_flatMap.mp hmem
  obtain ⟨d, hd, rfl⟩ := List.mem_map.mp hc
  refine zero_not_mem_encodeChar ?_ hzero
  by_cases hinversa : d = '\\'
  · rw [if_pos hinversa]
    decide
  · rw [if_neg hinversa]
    rintro rfl
    exact absurd (h.caracter hd (by decide) (by decide) (by decide)) (by decide)

/-- Two files of one name have the same variables. -/
theorem fvar_eq_of_nombre {a b : Archivo} (h : a.nombre = b.nombre) : a.fvar = b.fvar := by
  have hfvar (s : List Char) : replace '.' '_' (replace '\\' '_' (replace '/' '_' s)) =
      replace '.' '_' (replace '/' '_' (replace '\\' '/' s)) := by
    simp only [replace, List.map_map]
    refine List.map_congr_left fun c _ => ?_
    by_cases h1 : c = '/' <;> by_cases h2 : c = '\\' <;> simp [h1, h2]
  rw [Archivo.fvar, Archivo.fvar, hfvar, hfvar, utf8_injective h]

/-! ## Looking up the variables -/

/-- The first element with a key is the only one. -/
theorem find?_key {α κ : Type*} [DecidableEq κ] {key : α → κ} {l : List α}
    (hnd : (l.map key).Nodup) {x : α} (hx : x ∈ l) : (l.find? fun y => key y = key x) = some x := by
  obtain ⟨l₁, l₂, rfl⟩ := List.append_of_mem hx
  rw [List.find?_eq_some_iff_append]
  refine ⟨by simp, l₁, l₂, rfl, fun y hy => ?_⟩
  rw [List.map_append, List.nodup_append] at hnd
  have hne := hnd.2.2 _ (List.mem_map_of_mem hy) _ List.mem_cons_self
  simpa using hne

/-- What an array holds. -/
def contenidos (a : Archivo) : List UInt8 := a.nombre ++ 0 :: pagina a

theorem elementos_snd (a : Archivo) : (elementos a).map Prod.snd = contenidos a := by
  simp [elementos, contenidos, Function.comp_def]

section Table

variable {files : List Archivo} {ultimo : Archivo}

theorem bytes_declarado (hv : (declarado files ultimo).Valida) {a : Archivo} (ha : a ∈ files) :
    (declarado files ultimo).bytes (varDatos a) = some (contenidos a) := by
  have hmem : (varDatos a, (elementos a).map Prod.snd) ∈ (declarado files ultimo).arrays :=
    List.mem_map_of_mem ha
  rw [Unidad.bytes, find?_key hv.1 hmem, Option.map_some, elementos_snd]

theorem fichero_declarado (hv : (declarado files ultimo).Valida) {p : List Char × Archivo}
    (hp : p ∈ conPrevios "NULL".toList files) :
    (declarado files ultimo).fichero (varFichero p.2) = some (ficheroDe p) :=
  find?_key hv.2 (List.mem_map_of_mem hp)

/-- What `data` and `len` make of a file. -/
def servido (a : Archivo) : List UInt8 :=
  ((contenidos a).drop a.offset).take ((contenidos a).length - a.offset)

theorem datos_declarado (hv : (declarado files ultimo).Valida) {a : Archivo} (ha : a ∈ files)
    (prevfile : List Char) :
    (declarado files ultimo).datos (ficheroDe (prevfile, a)) = some (servido a) := by
  have hbytes := bytes_declarado hv ha
  simp only [Unidad.datos, ficheroDe, hbytes, Option.bind_eq_bind, Option.bind_some]
  rfl

/-- The name of the entry before the ones that follow `files`. -/
def enlace (files : List Archivo) : Option (List Char) := files.getLast?.map varFichero

theorem mem_conPrevios (files : List Archivo) (a : Archivo) (post : List Archivo)
    (prevfile : List Char) :
    ((enlace files).getD prevfile, a) ∈ conPrevios prevfile (files ++ a :: post) := by
  induction files generalizing prevfile with
  | nil => exact List.mem_cons_self
  | cons b files ih =>
    have henlace : (enlace (b :: files)).getD prevfile = (enlace files).getD (varFichero b) := by
      cases hf : files.getLast? <;> simp [enlace, List.getLast?_cons, hf]
    rw [henlace]
    exact List.mem_cons_of_mem _ (ih (varFichero b))

theorem next_ficheroDe (pre : List Archivo) (a : Archivo) :
    (ficheroDe ((enlace pre).getD "NULL".toList, a)).next = enlace pre := by
  cases hpre : enlace pre with
  | none => rfl
  | some v =>
    obtain ⟨b, -, rfl⟩ := Option.map_eq_some_iff.mp hpre
    have hnull : varFichero b ≠ "NULL".toList := fun hnull =>
      absurd (List.cons.inj hnull).1 (by decide : 'f' ≠ 'N')
    simp only [ficheroDe, Option.getD_some, if_neg hnull]

theorem takeWhile_contenidos {a : Archivo} (h : Legible a) :
    (contenidos a).takeWhile (· ≠ 0) = a.nombre := by
  have hall : ∀ b ∈ a.nombre, decide (b ≠ 0) = true := fun b hb =>
    decide_eq_true fun hz => zero_not_mem_nombre h (hz ▸ hb)
  rw [contenidos, List.takeWhile_append_of_pos hall]
  simp

/-- From any file of the chain on, the search sees that file and those added before it,
and takes the last of them that has the name. -/
theorem abrirDesde_prefix (hv : (declarado files ultimo).Valida) (h : ∀ a ∈ files, Legible a)
    (nombre : List UInt8) {pre post : List Archivo} (hpre : files = pre ++ post) {n : ℕ}
    (hn : pre.length ≤ n) :
    (declarado files ultimo).abrirDesde nombre n (enlace pre) =
      (pre.reverse.find? fun a => a.nombre = nombre).map servido := by
  induction pre using List.reverseRecOn generalizing post n with
  | nil => cases n <;> rfl
  | append_singleton pre a ih =>
    have hfiles : files = pre ++ a :: post := by rw [hpre, List.append_assoc, List.singleton_append]
    have ha : a ∈ files := by simp [hfiles]
    have hmem := mem_conPrevios pre a post "NULL".toList
    rw [← hfiles] at hmem
    have hlast : enlace (pre ++ [a]) = some (varFichero a) := by simp [enlace]
    rw [List.length_append, List.length_singleton] at hn
    cases n with
    | zero => omega
    | succ n =>
      have hrest := ih hfiles (Nat.le_of_succ_le_succ hn)
      have hname : (ficheroDe ((enlace pre).getD "NULL".toList, a)).name = varDatos a := rfl
      rw [hlast, Unidad.abrirDesde, fichero_declarado hv hmem, List.reverse_append]
      simp only [Option.bind_eq_bind, Option.bind_some, List.reverse_singleton,
        List.singleton_append, next_ficheroDe, hname, bytes_declarado hv ha,
        takeWhile_contenidos (h a ha), datos_declarado hv ha]
      by_cases hnombre : a.nombre = nombre
      · rw [if_pos hnombre, List.find?_cons_of_pos (by simpa using hnombre), Option.map_some]
      · rw [if_neg hnombre, List.find?_cons_of_neg (by simpa using hnombre), hrest]

/-- Of several files with one name the search finds the one that was added last. -/
theorem abrir_declarado (hv : (declarado files ultimo).Valida) (h : ∀ a ∈ files, Legible a)
    (hu : files.getLast? = some ultimo) (nombre : List UInt8) :
    (declarado files ultimo).abrir nombre =
      (files.reverse.find? fun a => a.nombre = nombre).map servido := by
  have hroot : some (declarado files ultimo).root = enlace files := by
    rw [enlace, hu]
    rfl
  have hlength : (declarado files ultimo).ficheros.length = files.length := calc
    _ = (conPrevios "NULL".toList files).length := List.length_map _
    _ = ((conPrevios "NULL".toList files).map Prod.snd).length := (List.length_map _).symm
    _ = files.length := by rw [conPrevios_snd]
  rw [Unidad.abrir, hroot, hlength]
  exact abrirDesde_prefix hv h nombre (List.append_nil files).symm le_rfl

end Table

/-! ## Main results -/

theorem length_nombre (a : Archivo) : a.nombre.length = (utf8 (a.file.drop 1)).length := by
  rw [Archivo.nombre]
  induction a.file.drop 1 with
  | nil => rfl
  | cons c s ih =>
    have hc : (if c = '\\' then '/' else c).utf8Size = c.utf8Size := by
      by_cases h : c = '\\'
      · rw [h]
        decide
      · rw [if_neg h]
    simp only [utf8, replace, List.map_cons, List.flatMap_cons, List.length_append,
      String.length_utf8EncodeChar, hc] at ih ⊢
    rw [ih]

/-- The offset is right just when the name is ASCII. -/
theorem servido_eq_pagina_iff (a : Archivo) :
    servido a = pagina a ↔ ∀ c ∈ a.file.drop 1, c.toNat < 128 := by
  obtain ⟨hle, hiff⟩ := length_utf8 (a.file.drop 1)
  rw [← hiff, ← length_nombre]
  rw [← length_nombre] at hle
  have hservido : servido a = (a.nombre ++ [0] ++ pagina a).drop a.offset := by
    rw [servido, List.take_of_length_le List.length_drop.le, contenidos, List.append_assoc,
      List.singleton_append]
  rw [hservido]
  constructor
  · intro h
    have hlength := congrArg List.length h
    simp only [List.length_drop, List.length_append, List.length_singleton,
      Archivo.offset] at hlength hle ⊢
    omega
  · intro h
    exact List.drop_left' (by rw [List.length_append, h, List.length_singleton, Archivo.offset])

/-- **The page table.** For any files whose variable names are made of identifier
characters: the generated C file compiles just when these names are distinct; then it
counts the files, nothing is found under any other name, and what is found under the
name of a file is its header and its contents just when the name is ASCII. -/
theorem page_table_serves_iff {files : List Archivo} (hne : files ≠ [])
    (h : ∀ a ∈ files, Legible a) :
    ∃ text, makefsdata files = some text ∧
      ((compilar text).isSome ↔ (files.map Archivo.fvar).Nodup) ∧
      ∀ u, compilar text = some u → u.numfiles = files.length ∧
        (∀ nombre, (∀ a ∈ files, a.nombre ≠ nombre) → u.abrir nombre = none) ∧
        ∀ a ∈ files, u.abrir a.nombre = some (pagina a) ↔
          ∀ c ∈ a.file.drop 1, c.toNat < 128 := by
  obtain ⟨ultimo, hu⟩ : ∃ ultimo, files.getLast? = some ultimo :=
    ⟨_, List.getLast?_eq_some_getLast hne⟩
  obtain ⟨text, htext, hcompila⟩ := compilar_makefsdata h hu
  refine ⟨text, htext, ?_, fun u hu' => ?_⟩
  · rw [hcompila]
    by_cases hnd : (files.map Archivo.fvar).Nodup <;> simp [hnd]
  · rw [hcompila] at hu'
    obtain ⟨hnd, rfl⟩ : (files.map Archivo.fvar).Nodup ∧ declarado files ultimo = u := by
      simpa using hu'
    have hv := (valida_iff files ultimo).mpr hnd
    refine ⟨rfl, fun nombre hno => ?_, fun a ha => ?_⟩
    · rw [abrir_declarado hv h hu, List.find?_eq_none.mpr (by simpa using hno)]
      rfl
    · have hfind : (files.reverse.find? fun b => b.nombre = a.nombre) = some a := by
        have hnombres : (files.reverse.map Archivo.nombre).Nodup := by
          rw [List.map_reverse, List.nodup_reverse]
          exact List.pairwise_map.mpr ((List.pairwise_map.mp hnd).imp fun hab hn =>
            hab (fvar_eq_of_nombre hn))
        exact find?_key hnombres (List.mem_reverse.mpr ha)
      rw [abrir_declarado hv h hu, hfind, Option.map_some, Option.some_inj,
        servido_eq_pagina_iff]

/-- A page and a picture whose name is not ASCII. -/
def dosFicheros : List Archivo :=
  [⟨"./index.shtml".toList, [0x68, 0x69]⟩, ⟨"./é.png".toList, [0x89]⟩]

theorem page_table_serves_index :
    ∃ text, makefsdata dosFicheros = some text ∧ ∃ u, compilar text = some u ∧
      u.abrir (utf8 "/index.shtml".toList) = some (pagina ⟨"./index.shtml".toList, [0x68, 0x69]⟩) ∧
      u.abrir (utf8 "/é.png".toList) ≠ some (pagina ⟨"./é.png".toList, [0x89]⟩) := by
  have hlegible : ∀ a ∈ dosFicheros, Legible a := by
    intro a ha
    rcases List.mem_pair.mp ha with rfl | rfl
    · exact ⟨rfl, List.all_eq_true.mp rfl⟩
    · exact ⟨rfl, List.all_eq_true.mp rfl⟩
  obtain ⟨text, htext, hcompila, htabla⟩ :=
    page_table_serves_iff (List.cons_ne_nil _ _) hlegible
  obtain ⟨u, hu⟩ := Option.isSome_iff_exists.mp (hcompila.mpr (by decide +kernel))
  obtain ⟨-, -, hiff⟩ := htabla u hu
  refine ⟨text, htext, u, hu, ?_, ?_⟩
  · exact (hiff ⟨"./index.shtml".toList, [0x68, 0x69]⟩ List.mem_cons_self).mpr (by simp)
  · intro habrir
    have hascii := (hiff ⟨"./é.png".toList, [0x89]⟩ (by simp)).mp habrir
    exact absurd (hascii 'é' (by simp)) (by decide)

end PicoDrone.FsdataSoundness
