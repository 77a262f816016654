import Mathlib.Data.List.Infix

/-! # The page table generator (`WifiGiroscopio/makefsdata.py`)

The script turns the files below `html_files` into the C text of `htmldata.c`; the
copy in `WifiLED` has the same text. A Python string is the list of its characters. -/
namespace PicoDrone.Firmware.Makefsdata

/-- A `file` that `os.walk('.')` finds, and what `open(file, 'rb')` reads. -/
structure Archivo where
  file : List Char
  contenido : List UInt8

/-- `bytes(s, 'utf-8')`. -/
def utf8 (s : List Char) : List UInt8 := s.flatMap String.utf8EncodeChar

/-- `s.replace(a, b)` for single characters. -/
def replace (a b : Char) (s : List Char) : List Char := s.map fun c => if c = a then b else c

/-! ## The page of a file -/

/-- The extensions that are asked for, in this order, and their headers. -/
def tipos : List (String × String) :=
  [(".html", "Content-type: text/html\r\n"), (".shtml", "Content-type: text/html\r\n"),
    (".jpg", "Content-type: image/jpeg\r\n"), (".gif", "Content-type: image/gif\r\n"),
    (".png", "Content-type: image/png\r\n"),
    (".class", "Content-type: application/octet-stream\r\n"),
    (".js", "Content-type: text/javascript\r\n"), (".css", "Content-type: text/css\r\n"),
    (".svg", "Content-type: image/svg+xml\r\n")]

/-- `header`; `in` looks for a substring anywhere in the path. -/
def Archivo.header (a : Archivo) : List Char :=
  (if "404".toList <:+: a.file then "HTTP/1.0 404 File not found\r\n".toList
    else "HTTP/1.0 200 OK\r\n".toList) ++
  "Server: lwIP/pre-0.6 (http://www.sics.se/~adam/lwip/)\r\n".toList ++
  (match tipos.find? fun t => t.1.toList <:+: a.file with
    | some t => t.2.toList
    | none => "Content-type: text/plain\r\n".toList) ++
  "\r\n".toList

/-- `fvar`, the end of the names of the two variables of a file. -/
def Archivo.fvar (a : Archivo) : List Char :=
  replace '.' '_' (replace '\\' '_' (replace '/' '_' (a.file.drop 1)))

/-- The name that the server looks for. -/
def Archivo.nombre (a : Archivo) : List UInt8 := utf8 (replace '\\' '/' (a.file.drop 1))

/-! ## The arrays -/

/-- The two digits that `binascii.hexlify` makes of a byte. -/
def hexlify (b : UInt8) : List Char :=
  [Nat.digitChar (b.toNat / 16), Nat.digitChar (b.toNat % 16)]

/-- `"0x\x7b\x7d, ".format(byte.decode())`. -/
def celda (b : UInt8) : List Char := "0x".toList ++ hexlify b ++ ", ".toList

/-- The two loops with a `count`, which break the line after every tenth byte. -/
def volcar (count : ℕ) : List UInt8 → List Char
  | [] => []
  | b :: bs =>
    celda b ++ if count + 1 = 10 then "\n\t".toList ++ volcar 0 bs else volcar (count + 1) bs

def Archivo.array (a : Archivo) : List Char :=
  "static const unsigned char data".toList ++ a.fvar ++ "[] = \x7b\n".toList ++
  "\t/* ".toList ++ a.file ++ " */\n\t".toList ++
  a.nombre.flatMap celda ++ "0,\n\t".toList ++
  volcar 0 (utf8 a.header) ++ "\n\t".toList ++
  volcar 0 a.contenido ++ "\x7d;\n\n".toList

/-! ## The list of files -/

/-- `len(filenames[i]) + 1`, where `filenames[i]` is a string. -/
def Archivo.offset (a : Archivo) : ℕ := (a.file.drop 1).length + 1

def decimal (n : ℕ) : List Char := Nat.toDigits 10 n

def Archivo.fichero (prevfile : List Char) (a : Archivo) : List Char :=
  "const struct fsdata_file file".toList ++ a.fvar ++ "[] = \x7b\x7b ".toList ++ prevfile ++
  ", data".toList ++ a.fvar ++ ", ".toList ++
  "data".toList ++ a.fvar ++ " + ".toList ++ decimal a.offset ++ ", ".toList ++
  "sizeof(data".toList ++ a.fvar ++ ") - ".toList ++ decimal a.offset ++ ", ".toList ++
  "FS_FILE_FLAGS_HEADER_INCLUDED | FS_FILE_FLAGS_HEADER_PERSISTENT\x7d\x7d;\n".toList

/-- Each file with its `prevfile`; `prevfile` is the one of the first file. -/
def conPrevios (prevfile : List Char) : List Archivo → List (List Char × Archivo)
  | [] => []
  | a :: as => (prevfile, a) :: conPrevios ("file".toList ++ a.fvar) as

/-- What the script writes; without files, `varnames[-1]` fails. -/
def makefsdata (files : List Archivo) : Option (List Char) :=
  files.getLast?.map fun ultimo =>
    files.flatMap Archivo.array ++
    (conPrevios "NULL".toList files).flatMap (fun p => p.2.fichero p.1) ++
    "\n#define FS_ROOT file".toList ++ ultimo.fvar ++ "\n".toList ++
    "#define FS_NUMFILES ".toList ++ decimal files.length ++ "\n".toList

end PicoDrone.Firmware.Makefsdata
