/-
Module: AttachService.Commands.Builtin
Purpose: The commands every service knows from the start.
Trusted boundary: none
Main exports: ProcessInfo, Builtin.version, Builtin.echo, Builtin.properties,
  CommandTable.builtin
-/
import AttachService.Commands.Table
import AttachService.Text.Numeral

namespace AttachService

/-- What a process knows about itself. -/
structure ProcessInfo where
  osName : String
  osArch : String
  pid : Nat
  name : String
  executable : Option String
  directory : Option String
  memory : Nat
  startTime : Nat
deriving Repr, Inhabited, DecidableEq

namespace Builtin

/-- The most recent request version served. -/
def version : Handler := fun _ => ⟨Numeral.ofNat Version.supported.number.toNat, some 0⟩

/-- The arguments with a space between them. -/
def echo : Handler := fun args => ⟨String.intercalate " " args, some 0⟩

/-- A line `key=value`. -/
def propertyLine (key value : String) : String := key ++ "=" ++ value ++ "\n"

/-- What is known about the process, a line for each property; or nothing but a complaint
when the process cannot find itself. -/
def properties (pid : Nat) (process : Option ProcessInfo) : Handler := fun _ =>
  match process with
  | none => ⟨"Process " ++ Numeral.ofNat pid ++ " not found", some 1⟩
  | some info =>
      let lines :=
        [propertyLine "os.name" info.osName,
         propertyLine "os.arch" info.osArch,
         propertyLine "process.pid" (Numeral.ofNat info.pid),
         propertyLine "process.name" info.name]
        ++ (info.executable.map (propertyLine "process.exe")).toList
        ++ (info.directory.map (propertyLine "process.cwd")).toList
        ++ [propertyLine "process.memory" (Numeral.ofNat info.memory),
            propertyLine "process.start_time" (Numeral.ofNat info.startTime)]
      ⟨String.join lines, some 0⟩

end Builtin

/-- The commands `getversion`, `properties` and `echo`. -/
def CommandTable.builtin (info : ProcessInfo) : CommandTable :=
  ((CommandTable.empty.register "getversion" Builtin.version).register "properties"
    (Builtin.properties info.pid (some info))).register "echo" Builtin.echo

end AttachService
