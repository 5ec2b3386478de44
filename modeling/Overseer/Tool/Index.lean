import Overseer.Tool.Conditions
import Overseer.Tool.Directories
import Overseer.Tool.Editor
import Overseer.Tool.Fields
import Overseer.Tool.Lines
import Overseer.Tool.Words

namespace Overseer.Tool

open Overseer.Shell

-- Which tools there are.

def work (name : String) (arguments : List Bytes) : Work Unit :=
  match name with
  | "[" => examineBracketed arguments
  | "cat" => concatenate arguments
  | "cut" => cut arguments
  | "echo" => echo arguments
  | "false" => setStatus 1
  | "head" => head arguments
  | "mktemp" => makeTemporary arguments
  | "printf" => format arguments
  | "rm" => removeAll arguments
  | "sed" => edit arguments
  | "seq" => countOut arguments
  | "sort" => sort arguments
  | "test" => examine arguments
  | "tr" => transliterate arguments
  | "wc" => count arguments
  | _ => setStatus 0

end Overseer.Tool
