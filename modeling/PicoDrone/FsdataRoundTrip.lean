import Mathlib.Data.List.Nodup
import PicoDrone.Firmware.Makefsdata
import PicoDrone.Fsdata

/-! # The generated page table, read back

The text of `makefsdata.py` is read back token by token (`scans_array`, `scans_fichero`)
and then declaration by declaration (`compilar_makefsdata`): the C file declares the
encoded name, the header and the contents of every file, each file linked to the one
before, and it compiles just when no two files get the same variable names. -/
namespace PicoDrone.FsdataRoundTrip
open Firmware.Makefsdata Library.CLexer Library.TokenReader Fsdata

/-- The page the script makes of a file. -/
def pagina (a : Archivo) : List UInt8 := utf8 a.header ++ a.contenido

/-- A path below `html_files` whose variable names are C identifiers. -/
structure Legible (a : Archivo) : Prop where
  punto : a.file.head? = some '.'
  letras : ∀ c ∈ a.fvar, wordChar c = true

/-- The characters of a path, for the ones of its variable names. -/
theorem Legible.caracter {a : Archivo} (h : Legible a) {c : Char} (hc : c ∈ a.file.drop 1)
    (hbarra : c ≠ '/') (hinversa : c ≠ '\\') (hpunto : c ≠ '.') : wordChar c = true := by
  have h1 : c ∈ replace '/' '_' (a.file.drop 1) := List.mem_map.mpr ⟨c, hc, if_neg hbarra⟩
  have h2 : c ∈ replace '\\' '_' (replace '/' '_' (a.file.drop 1)) :=
    List.mem_map.mpr ⟨c, h1, if_neg hinversa⟩
  exact h.letras c (List.mem_map.mpr ⟨c, h2, if_neg hpunto⟩)

/-! ## The names of the variables -/

def varDatos (a : Archivo) : List Char := "data".toList ++ a.fvar

def varFichero (a : Archivo) : List Char := "file".toList ++ a.fvar

/-! ## Bytes -/

def palabraHex (b : UInt8) : List Char := "0x".toList ++ hexlify b

/-- The words of an initialiser and their values. -/
def elementos (a : Archivo) : List (List Char × UInt8) :=
  a.nombre.map (fun b => (palabraHex b, b)) ++
    ("0".toList, 0) :: (pagina a).map fun b => (palabraHex b, b)

def tokensByte (e : List Char × UInt8) : List Token := .word e.1 :: lex ",".toList

theorem hexlify_lt (b : UInt8) : b.toNat / 16 < 16 ∧ b.toNat % 16 < 16 := by
  have := b.toNat_lt
  omega

theorem scans_celda (b : UInt8) :
    Scans .blank (celda b) (tokensByte (palabraHex b, b)) .blank := by
  have hdigits : ∀ c ∈ palabraHex b, wordChar c = true := by
    obtain ⟨hx, hy⟩ := hexlify_lt b
    simp [palabraHex, hexlify, wordChar_digitChar hx, wordChar_digitChar hy,
      show wordChar '0' = true from rfl, show wordChar 'x' = true from rfl]
  exact (scans_blank_word (List.cons_ne_nil _ _) hdigits).append (.close rfl ⟨rfl, rfl⟩)

theorem scans_volcar (count : ℕ) (bs : List UInt8) :
    Scans .blank (volcar count bs) (bs.flatMap fun b => tokensByte (palabraHex b, b)) .blank := by
  induction bs generalizing count with
  | nil => exact .nil _
  | cons b bs ih =>
    rw [volcar, List.flatMap_cons]
    refine (scans_celda b).append ?_
    by_cases h : count + 1 = 10
    · have hsalto : Scans .blank "\n\t".toList [] .blank := ⟨rfl, rfl⟩
      rw [if_pos h]
      exact hsalto.append (ih 0)
    · rw [if_neg h]
      exact ih _

theorem constant_palabraHex (b : UInt8) : constant (palabraHex b) = some b.toNat := by
  obtain ⟨hx, hy⟩ := hexlify_lt b
  refine (constant_hex hx hy).trans (congrArg some ?_)
  omega

/-! ## The readers -/

theorem reads_texto (s : String) : Reads (texto s) (lex s.toList) () := Reads.literal _

theorem reads_palabra (w : List Char) : Reads palabra [.word w] w := fun _ => rfl

theorem reads_numero {w : List Char} {n : ℕ} (h : constant w = some n) :
    Reads numero [.word w] n := by
  have hconstant : Reads (StateT.lift (constant w) : Lector ℕ) [] n := by
    intro rest
    rw [h]
    rfl
  exact (reads_palabra w).bind hconstant

theorem reads_byte {e : List Char × UInt8} {n : ℕ} (h : constant e.1 = some n)
    (hn : UInt8.ofNat n = e.2) : Reads byte (tokensByte e) e.2 := by
  rw [← hn]
  exact (reads_numero h).bind (reads_texto ",").last

theorem reads_elementos (a : Archivo) : ∀ e ∈ elementos a, Reads byte (tokensByte e) e.2 := by
  have hbyte (b : UInt8) : Reads byte (tokensByte (palabraHex b, b)) b :=
    reads_byte (constant_palabraHex b) UInt8.ofNat_toNat
  intro e he
  rcases List.mem_append.mp he with he | he
  · obtain ⟨b, -, rfl⟩ := List.mem_map.mp he
    exact hbyte b
  · rcases List.mem_cons.mp he with rfl | he
    · exact reads_byte (constant_decimal 0) rfl
    · obtain ⟨b, -, rfl⟩ := List.mem_map.mp he
      exact hbyte b

/-! ## An array -/

def tokensArray (a : Archivo) : List Token :=
  lex "static const unsigned char".toList ++ ([.word (varDatos a)] ++
    (lex "[] = \x7b".toList ++ ((elementos a).flatMap tokensByte ++ lex "\x7d;".toList)))

theorem reads_array (a : Archivo) :
    Reads array (tokensArray a) (varDatos a, (elementos a).map Prod.snd) := by
  refine (reads_texto _).bind ((reads_palabra _).bind ((reads_texto _).bind ?_))
  refine Reads.all (reads_elementos a) (fun e _ => by simp [tokensByte]) (fun rest => rfl) ?_
  exact (reads_texto _).last

theorem Legible.asterisco {a : Archivo} (h : Legible a) : '*' ∉ a.file := by
  intro hmem
  cases hf : a.file with
  | nil =>
    rw [hf] at hmem
    cases hmem
  | cons c r =>
    obtain rfl : c = '.' := by simpa [hf] using h.punto
    have hr : '*' ∈ a.file.drop 1 := by simpa [hf] using hmem
    exact absurd (h.caracter hr (by decide) (by decide) (by decide)) (by decide)

theorem scans_array {a : Archivo} (h : Legible a) :
    Scans .blank a.array (tokensArray a) .blank := by
  have hcabeza : Scans .blank "static const unsigned char data".toList
      (lex "static const unsigned char".toList) (.word "data".toList) := ⟨rfl, rfl⟩
  have habre : Scans (.word (varDatos a)) "[] = \x7b\n".toList
      (.word (varDatos a) :: lex "[] = \x7b".toList) .blank := .close rfl ⟨rfl, rfl⟩
  have hcomentario : Scans .blank "\t/* ".toList [] .comment := ⟨rfl, rfl⟩
  have hfin : Scans .comment " */\n\t".toList [] .blank := ⟨rfl, rfl⟩
  have hnombre : Scans .blank (a.nombre.flatMap celda)
      (a.nombre.flatMap fun b => tokensByte (palabraHex b, b)) .blank :=
    .flatMap fun b _ => scans_celda b
  have hcero : Scans .blank "0,\n\t".toList (tokensByte ("0".toList, 0)) .blank := ⟨rfl, rfl⟩
  have hsalto : Scans .blank "\n\t".toList [] .blank := ⟨rfl, rfl⟩
  have hcierra : Scans .blank "\x7d;\n\n".toList (lex "\x7d;".toList) .blank := ⟨rfl, rfl⟩
  have htokens : tokensArray a = lex "static const unsigned char".toList ++ [] ++
      (.word (varDatos a) :: lex "[] = \x7b".toList) ++ [] ++ [] ++ [] ++
      (a.nombre.flatMap fun b => tokensByte (palabraHex b, b)) ++ tokensByte ("0".toList, 0) ++
      ((utf8 a.header).flatMap fun b => tokensByte (palabraHex b, b)) ++ [] ++
      (a.contenido.flatMap fun b => tokensByte (palabraHex b, b)) ++ lex "\x7d;".toList := by
    simp only [tokensArray, elementos, pagina, List.flatMap_append, List.flatMap_cons,
      List.flatMap_map, List.map_append, List.append_assoc, List.append_nil, List.nil_append,
      List.cons_append]
  rw [htokens]
  exact (((((((((((hcabeza.append (scans_word h.letras _)).append habre).append hcomentario).append
    (scans_comment h.asterisco)).append hfin).append hnombre).append hcero).append
    (scans_volcar 0 (utf8 a.header))).append hsalto).append (scans_volcar 0 a.contenido)).append
    hcierra)

/-! ## An entry of the list -/

/-- What the entry of `p.2` after `p.1` declares. -/
def ficheroDe (p : List Char × Archivo) : Fichero :=
  { var := varFichero p.2
    next := if p.1 = "NULL".toList then none else some p.1
    name := varDatos p.2
    base := varDatos p.2
    offset := p.2.offset
    tam := varDatos p.2
    menos := p.2.offset }

def tokensFichero (p : List Char × Archivo) : List Token :=
  lex "const struct fsdata_file".toList ++ ([.word (varFichero p.2)] ++
    (lex "[] = \x7b\x7b".toList ++ ([.word p.1] ++ (lex ",".toList ++
    ([.word (varDatos p.2)] ++ (lex ",".toList ++ ([.word (varDatos p.2)] ++ (lex "+".toList ++
    ([.word (decimal p.2.offset)] ++ (lex ",".toList ++ (lex "sizeof(".toList ++
    ([.word (varDatos p.2)] ++ (lex ") -".toList ++ ([.word (decimal p.2.offset)] ++
    (lex ",".toList ++ lex
    "FS_FILE_FLAGS_HEADER_INCLUDED | FS_FILE_FLAGS_HEADER_PERSISTENT\x7d\x7d;".toList)))))))))))))))

theorem reads_fichero (p : List Char × Archivo) :
    Reads fichero (tokensFichero p) (ficheroDe p) := by
  have hoffset : Reads numero [.word (decimal p.2.offset)] p.2.offset :=
    reads_numero (constant_decimal _)
  have hpuntero : Reads puntero [.word p.1] (ficheroDe p).next := (reads_palabra p.1).last
  exact (reads_texto _).bind <| (reads_palabra _).bind <| (reads_texto _).bind <|
    hpuntero.bind <| (reads_texto _).bind <| (reads_palabra _).bind <| (reads_texto _).bind <|
    (reads_palabra _).bind <| (reads_texto _).bind <| hoffset.bind <| (reads_texto _).bind <|
    (reads_texto _).bind <| (reads_palabra _).bind <| (reads_texto _).bind <|
    hoffset.bind <| (reads_texto _).bind (reads_texto _).last

theorem scans_fichero {prevfile : List Char} {a : Archivo} (h : Legible a) (hne : prevfile ≠ [])
    (hprev : ∀ c ∈ prevfile, wordChar c = true) :
    Scans .blank (a.fichero prevfile) (tokensFichero (prevfile, a)) .blank := by
  have hoffset : Scans .blank (decimal a.offset) [] (.word (decimal a.offset)) :=
    scans_blank_word Nat.toDigits_ne_nil fun _ hc => wordChar_toDigits hc
  have hfile : Scans .blank "const struct fsdata_file file".toList
      (lex "const struct fsdata_file".toList) (.word "file".toList) := ⟨rfl, rfl⟩
  have habre : Scans (.word (varFichero a)) "[] = \x7b\x7b ".toList
      (.word (varFichero a) :: lex "[] = \x7b\x7b".toList) .blank := .close rfl ⟨rfl, rfl⟩
  have hname : Scans (.word prevfile) ", data".toList (.word prevfile :: lex ",".toList)
      (.word "data".toList) := .close rfl ⟨rfl, rfl⟩
  have hcoma (w : List Char) : Scans (.word w) ", ".toList (.word w :: lex ",".toList) .blank :=
    .close rfl ⟨rfl, rfl⟩
  have hbase : Scans .blank "data".toList [] (.word "data".toList) := ⟨rfl, rfl⟩
  have hmas : Scans (.word (varDatos a)) " + ".toList (.word (varDatos a) :: lex "+".toList)
      .blank := .close rfl ⟨rfl, rfl⟩
  have hsizeof : Scans .blank "sizeof(data".toList (lex "sizeof(".toList)
      (.word "data".toList) := ⟨rfl, rfl⟩
  have hmenos : Scans (.word (varDatos a)) ") - ".toList (.word (varDatos a) :: lex ") -".toList)
      .blank := .close rfl ⟨rfl, rfl⟩
  have hflags : Scans .blank
      ("FS_FILE_FLAGS_HEADER_INCLUDED | FS_FILE_FLAGS_HEADER_PERSISTENT\x7d\x7d;".toList ++ ['\n'])
      (lex "FS_FILE_FLAGS_HEADER_INCLUDED | FS_FILE_FLAGS_HEADER_PERSISTENT\x7d\x7d;".toList)
      .blank := scans_line rfl
  have hvar (v : List Char) := scans_word h.letras v
  have hall := ((((((((((((((((hfile.append (hvar _)).append habre).append
    (scans_blank_word hne hprev)).append hname).append (hvar _)).append (hcoma _)).append
    hbase).append (hvar _)).append hmas).append hoffset).append (hcoma _)).append hsizeof).append
    (hvar _)).append hmenos).append hoffset).append (hcoma _)).append hflags
  convert hall using 1
  · rfl
  simp only [tokensFichero, List.append_assoc, List.nil_append, List.append_nil,
    List.cons_append, varFichero, varDatos]

/-! ## The whole table -/

def declarado (files : List Archivo) (ultimo : Archivo) : Unidad :=
  { arrays := files.map fun a => (varDatos a, (elementos a).map Prod.snd)
    ficheros := (conPrevios "NULL".toList files).map ficheroDe
    root := varFichero ultimo
    numfiles := files.length }

def tokensTabla (files : List Archivo) (ultimo : Archivo) : List Token :=
  files.flatMap tokensArray ++ ((conPrevios "NULL".toList files).flatMap tokensFichero ++
    (lex "#define FS_ROOT".toList ++ ([.word (varFichero ultimo)] ++
    (lex "#define FS_NUMFILES".toList ++ [.word (decimal files.length)]))))

theorem reads_unidad (files : List Archivo) (ultimo : Archivo) :
    Reads unidad (tokensTabla files ultimo) (declarado files ultimo) := by
  have hfichero (rest : List Token) : array (lex "const struct fsdata_file".toList ++ rest) = none :=
    rfl
  have hdefine (rest : List Token) : array (lex "#define FS_ROOT".toList ++ rest) = none := rfl
  refine Reads.all (fun a _ => reads_array a) (fun a _ => List.cons_ne_nil _ _) ?_ ?_
  · intro rest
    cases conPrevios "NULL".toList files with
    | nil => exact hdefine _
    | cons p ps => exact hfichero _
  · refine Reads.all (fun p _ => reads_fichero p) (fun p _ => List.cons_ne_nil _ _) (fun rest => rfl) ?_
    exact (reads_texto _).bind <| (reads_palabra _).bind <| (reads_texto _).bind
      (reads_numero (constant_decimal _)).last

/-- The names in the `prevfile` places are words too. -/
theorem conPrevios_word {files : List Archivo} (h : ∀ a ∈ files, Legible a) {prevfile : List Char}
    (hne : prevfile ≠ []) (hprev : ∀ c ∈ prevfile, wordChar c = true) :
    ∀ p ∈ conPrevios prevfile files,
      Scans .blank (p.2.fichero p.1) (tokensFichero p) .blank := by
  induction files generalizing prevfile with
  | nil => exact List.forall_mem_nil _
  | cons a as ih =>
    obtain ⟨ha, has⟩ := List.forall_mem_cons.mp h
    have hvar : ∀ c ∈ varFichero a, wordChar c = true :=
      List.forall_mem_append.mpr ⟨List.all_eq_true.mp rfl, ha.letras⟩
    intro p hp
    rcases List.mem_cons.mp hp with rfl | hp
    · exact scans_fichero ha hne hprev
    · exact ih has (List.cons_ne_nil _ _) hvar p hp

theorem scans_tabla {files : List Archivo} (h : ∀ a ∈ files, Legible a) {ultimo : Archivo}
    (hu : files.getLast? = some ultimo) :
    ∃ text, makefsdata files = some text ∧
      Scans .blank text (tokensTabla files ultimo) .blank := by
  have hletras : ∀ c ∈ ultimo.fvar, wordChar c = true :=
    (h ultimo (List.mem_of_getLast? hu)).letras
  have harrays : Scans .blank (files.flatMap Archivo.array) (files.flatMap tokensArray) .blank :=
    .flatMap fun a ha => scans_array (h a ha)
  have hlista : Scans .blank
      ((conPrevios "NULL".toList files).flatMap fun p => p.2.fichero p.1)
      ((conPrevios "NULL".toList files).flatMap tokensFichero) .blank :=
    .flatMap (conPrevios_word h (List.cons_ne_nil _ _) (List.all_eq_true.mp rfl))
  have hroot : Scans .blank "\n#define FS_ROOT file".toList (lex "#define FS_ROOT".toList)
      (.word "file".toList) := ⟨rfl, rfl⟩
  have hfin (w : List Char) : Scans (.word w) "\n".toList [.word w] .blank := .close rfl ⟨rfl, rfl⟩
  have hnum : Scans .blank "#define FS_NUMFILES ".toList (lex "#define FS_NUMFILES".toList)
      .blank := ⟨rfl, rfl⟩
  have hlen : Scans .blank (decimal files.length) [] (.word (decimal files.length)) :=
    scans_blank_word Nat.toDigits_ne_nil fun _ hc => wordChar_toDigits hc
  have hall := (((((((harrays.append hlista).append hroot).append (scans_word hletras _)).append
    (hfin _)).append hnum).append hlen).append (hfin _))
  refine ⟨_, by rw [makefsdata, hu]; rfl, ?_⟩
  convert hall using 1
  simp only [tokensTabla, varFichero, List.append_assoc, List.append_nil]

theorem conPrevios_snd (prevfile : List Char) (files : List Archivo) :
    (conPrevios prevfile files).map Prod.snd = files := by
  induction files generalizing prevfile with
  | nil => rfl
  | cons a as ih => exact congrArg _ (ih _)

theorem valida_iff (files : List Archivo) (ultimo : Archivo) :
    (declarado files ultimo).Valida ↔ (files.map Archivo.fvar).Nodup := by
  have harrays : (declarado files ultimo).arrays.map Prod.fst =
      (files.map Archivo.fvar).map ("data".toList ++ ·) := by
    simp [declarado, varDatos, Function.comp_def]
  have hficheros : (declarado files ultimo).ficheros.map Fichero.var =
      (files.map Archivo.fvar).map ("file".toList ++ ·) := by
    conv_rhs => rw [← conPrevios_snd "NULL".toList files]
    simp [declarado, ficheroDe, varFichero, Function.comp_def]
  rw [Unidad.Valida, harrays, hficheros]
  exact ⟨fun hv => hv.1.of_map _, fun hv =>
    ⟨hv.map (List.append_right_injective _), hv.map (List.append_right_injective _)⟩⟩

/-- The text that is written for the files is read back as their table, unless two of
them have got one name in C. -/
theorem compilar_makefsdata {files : List Archivo} (h : ∀ a ∈ files, Legible a) {ultimo : Archivo}
    (hu : files.getLast? = some ultimo) :
    ∃ text, makefsdata files = some text ∧ compilar text =
      if (files.map Archivo.fvar).Nodup then some (declarado files ultimo) else none := by
  obtain ⟨text, htext, hscan⟩ := scans_tabla h hu
  have hread : unidad (lex text) = some (declarado files ultimo, []) := by
    rw [hscan.lex_eq, ← List.append_nil (tokensTabla files ultimo)]
    exact reads_unidad files ultimo []
  refine ⟨text, htext, ?_⟩
  simp only [compilar, hread, valida_iff]

end PicoDrone.FsdataRoundTrip
