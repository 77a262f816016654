import PicoDrone.Library.CLexer
import PicoDrone.Library.TokenReader

/-! # The page table as the server reads it

What the C text of `htmldata.c` declares and what lwIP finds in it. `compilar` reads
the few C forms the table is written in, as the compiler would, and `Unidad.abrir` is the
search of `fs_open`, of which the repository has the listing
(`WifiGiroscopio/build/pico_w_webserver.dis`, 10010608): it follows the `next` pointers
from `FS_ROOT` and compares the names with `strcmp`. -/
namespace PicoDrone.Fsdata
open Library.CLexer Library.TokenReader

/-! ## The declarations -/

/-- `struct fsdata_file`: `data` is `base + offset` and `len` is
`sizeof(tam) - menos`, where `name`, `base` and `tam` are arrays. -/
structure Fichero where
  var : List Char
  next : Option (List Char)
  name : List Char
  base : List Char
  offset : ℕ
  tam : List Char
  menos : ℕ

structure Unidad where
  arrays : List (List Char × List UInt8)
  ficheros : List Fichero
  root : List Char
  numfiles : ℕ

abbrev Lector (α : Type) := Reader Token α

/-- The tokens of a text. -/
def texto (s : String) : Lector Unit := literal (lex s.toList)

def palabra : Lector (List Char) := do
  match ← next with
  | .word w => pure w
  | .punct _ => failure

def numero : Lector ℕ := do
  let w ← palabra
  StateT.lift (constant w)

/-- One element of an initialiser, converted to `unsigned char`. -/
def byte : Lector UInt8 := do
  let n ← numero
  texto ","
  pure (.ofNat n)

def array : Lector (List Char × List UInt8) := do
  texto "static const unsigned char"
  let var ← palabra
  texto "[] = \x7b"
  let bytes ← all byte
  texto "\x7d;"
  pure (var, bytes)

def puntero : Lector (Option (List Char)) := do
  let w ← palabra
  pure (if w = "NULL".toList then none else some w)

def fichero : Lector Fichero := do
  texto "const struct fsdata_file"
  let var ← palabra
  texto "[] = \x7b\x7b"
  let next ← puntero
  texto ","
  let name ← palabra
  texto ","
  let base ← palabra
  texto "+"
  let offset ← numero
  texto ","
  texto "sizeof("
  let tam ← palabra
  texto ") -"
  let menos ← numero
  texto ","
  texto "FS_FILE_FLAGS_HEADER_INCLUDED | FS_FILE_FLAGS_HEADER_PERSISTENT\x7d\x7d;"
  pure { var, next, name, base, offset, tam, menos }

def unidad : Lector Unidad := do
  let arrays ← all array
  let ficheros ← all fichero
  texto "#define FS_ROOT"
  let root ← palabra
  texto "#define FS_NUMFILES"
  let numfiles ← numero
  pure { arrays, ficheros, root, numfiles }

/-- No variable is defined twice. -/
def Unidad.Valida (u : Unidad) : Prop :=
  (u.arrays.map Prod.fst).Nodup ∧ (u.ficheros.map Fichero.var).Nodup

instance (u : Unidad) : Decidable u.Valida := inferInstanceAs (Decidable (_ ∧ _))

def compilar (s : List Char) : Option Unidad :=
  match unidad (lex s) with
  | some (u, []) => if u.Valida then some u else none
  | _ => none

/-! ## The search -/

def Unidad.bytes (u : Unidad) (var : List Char) : Option (List UInt8) :=
  (u.arrays.find? fun d => d.1 = var).map Prod.snd

def Unidad.fichero (u : Unidad) (var : List Char) : Option Fichero :=
  u.ficheros.find? fun f => f.var = var

/-- `data` and `len`, taken out of the array. -/
def Unidad.datos (u : Unidad) (f : Fichero) : Option (List UInt8) := do
  let base ← u.bytes f.base
  let tam ← u.bytes f.tam
  pure ((base.drop f.offset).take (tam.length - f.menos))

def Unidad.abrirDesde (u : Unidad) (nombre : List UInt8) :
    ℕ → Option (List Char) → Option (List UInt8)
  | n + 1, some var => do
    let f ← u.fichero var
    let bytes ← u.bytes f.name
    if bytes.takeWhile (· ≠ 0) = nombre then u.datos f else u.abrirDesde nombre n f.next
  | _, _ => none

/-- `fs_open`. -/
def Unidad.abrir (u : Unidad) (nombre : List UInt8) : Option (List UInt8) :=
  u.abrirDesde nombre u.ficheros.length (some u.root)

end PicoDrone.Fsdata
