import ElementBindings.Catalog.Encode
import ElementBindings.Main
import ElementBindings.Proofs.Catalog.Document
import ElementBindings.Proofs.Catalog.FirstCycle
import ElementBindings.Proofs.Catalog.Loading
import ElementBindings.Proofs.Command.Collision
import ElementBindings.Proofs.Command.Containment
import ElementBindings.Proofs.Command.Pool
import ElementBindings.Proofs.Command.Refusal
import ElementBindings.Proofs.Command.Report
import ElementBindings.Proofs.Files.Writing
import ElementBindings.Proofs.Naming.Word
import ElementBindings.Proofs.Zig.Addressing
import ElementBindings.Proofs.Zig.Chaining
import ElementBindings.Proofs.Zig.Clash
import ElementBindings.Proofs.Zig.Denotation
import ElementBindings.Proofs.Zig.Needs
import ElementBindings.Proofs.Zig.Nesting
import ElementBindings.Proofs.Zig.Outline
import ElementBindings.Proofs.Zig.ReadBack
