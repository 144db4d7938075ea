import RiscVFast.Vliw

/-! The instruction table of `OpTable_rv32.cpp`. The bit pattern text of a row is only
printed, so a row keeps the code, the mask, the opcode and the operand template. -/

namespace RiscVFast

structure Optable where
  code : Word
  mask : Word
  vliw : VliwOp
  asmText : String
deriving DecidableEq

def optable : List Optable := [
  ⟨0x00000037, 0x0000007f, .lui, "lui rd,imm20"⟩,
  ⟨0x00000017, 0x0000007f, .auipc, "auipc rd,imm20"⟩,
  ⟨0x0000006f, 0x00000fff, .j, "j joff"⟩,
  ⟨0x0000006f, 0x0000007f, .jal, "jal rd,joff"⟩,
  ⟨0x00000067, 0xfff07fff, .jr, "jr rs1"⟩,
  ⟨0x00000067, 0x0000707f, .jalr, "jalr rd,rs1,simm12"⟩,
  ⟨0x00000063, 0x0000707f, .beq, "beq rs1,rs2,boff"⟩,
  ⟨0x00001063, 0x0000707f, .bne, "bne rs1,rs2,boff"⟩,
  ⟨0x00004063, 0x0000707f, .blt, "blt rs1,rs2,boff"⟩,
  ⟨0x00005063, 0x0000707f, .bge, "bge rs1,rs2,boff"⟩,
  ⟨0x00006063, 0x0000707f, .bltu, "bltu rs1,rs2,boff"⟩,
  ⟨0x00007063, 0x0000707f, .bgeu, "bgeu rs1,rs2,boff"⟩,
  ⟨0x00000003, 0x0000707f, .lb, "lb rd,rs,simm12"⟩,
  ⟨0x00001003, 0x0000707f, .lh, "lh rd,rs,simm12"⟩,
  ⟨0x00002003, 0x0000707f, .lw, "lw rd,rs,simm12"⟩,
  ⟨0x00004003, 0x0000707f, .lbu, "lbu rd,rs,simm12"⟩,
  ⟨0x00005003, 0x0000707f, .lhu, "lhu rd,rs,simm12"⟩,
  ⟨0x00000023, 0x0000707f, .sb, "sb rs2,rs1,s2imm12"⟩,
  ⟨0x00001023, 0x0000707f, .sh, "sh rs2,rs1,s2imm12"⟩,
  ⟨0x00002023, 0x0000707f, .sw, "sw rs2,rs1,s2imm12"⟩,
  ⟨0x00000013, 0xffffffff, .nop, "nop"⟩,
  ⟨0x00000013, 0x0000707f, .addi, "addi rd,rs,simm12"⟩,
  ⟨0x00002013, 0x0000707f, .slti, "slti rd,rs,simm12"⟩,
  ⟨0x00003013, 0x0000707f, .sltiu, "sltiu rd,rs,simm12"⟩,
  ⟨0x00004013, 0x0000707f, .xori, "xori rd,rs,simm12"⟩,
  ⟨0x00006013, 0x0000707f, .ori, "ori rd,rs,simm12"⟩,
  ⟨0x00007013, 0x0000707f, .andi, "andi rd,rs,simm12"⟩,
  ⟨0x00001013, 0xfe00707f, .slli, "slli rd,rs1,shamt"⟩,
  ⟨0x00005013, 0xfe00707f, .srli, "srli rd,rs1,shamt"⟩,
  ⟨0x40005013, 0xfe00707f, .srai, "srai rd,rs1,shamt"⟩,
  ⟨0x00000033, 0xfe00707f, .add, "add rd,rs1,rs2"⟩,
  ⟨0x40000033, 0xfe00707f, .sub, "sub rd,rs1,rs2"⟩,
  ⟨0x00001033, 0xfe00707f, .sll, "sll rd,rs1,rs2"⟩,
  ⟨0x00002033, 0xfe00707f, .slt, "slt rd,rs1,rs2"⟩,
  ⟨0x00003033, 0xfe00707f, .sltu, "sltu rd,rs1,rs2"⟩,
  ⟨0x00004033, 0xfe00707f, .xor, "xor rd,rs1,rs2"⟩,
  ⟨0x00005033, 0xfe00707f, .srl, "srl rd,rs1,rs2"⟩,
  ⟨0x40005033, 0xfe00707f, .sra, "sra rd,rs1,rs2"⟩,
  ⟨0x00006033, 0xfe00707f, .or, "or rd,rs1,rs2"⟩,
  ⟨0x00007033, 0xfe00707f, .and, "and rd,rs1,rs2"⟩,
  ⟨0x0000000f, 0x0000707f, .fence, "fence"⟩,
  ⟨0x00000073, 0xffffffff, .ecall, "ecall"⟩,
  ⟨0x00100073, 0xffffffff, .ebreak, "ebreak"⟩,
  ⟨0x10200073, 0xffffffff, .sret, "sret"⟩,
  ⟨0x30200073, 0xffffffff, .mret, "mret"⟩,
  ⟨0x10500073, 0xffffffff, .wfi, "wfi"⟩,
  ⟨0x0000100f, 0x0000707f, .fenceI, "fence.i imm21"⟩,
  ⟨0x00001073, 0x0000707f, .csrrw, "csrrw csr,rd,rs"⟩,
  ⟨0x00002073, 0x0000707f, .csrrs, "csrrs csr,rd,rs"⟩,
  ⟨0x00003073, 0x0000707f, .csrrc, "csrrc csr,rd,rs"⟩,
  ⟨0x00005073, 0x0000707f, .csrrwi, "csrrwi csr,rd,uimm5"⟩,
  ⟨0x00006073, 0x0000707f, .csrrsi, "csrrsi csr,rd,uimm5"⟩,
  ⟨0x00007073, 0x0000707f, .csrrci, "csrrci csr,rd,uimm5"⟩,
  ⟨0x02000033, 0xfe00707f, .mul, "mul rd,rs1,rs2"⟩,
  ⟨0x02001033, 0xfe00707f, .mulh, "mulh rd,rs1,rs2"⟩,
  ⟨0x02002033, 0xfe00707f, .mulhsu, "mulhsu rd,rs1,rs2"⟩,
  ⟨0x02003033, 0xfe00707f, .mulhu, "mulhu rd,rs1,rs2"⟩,
  ⟨0x02004033, 0xfe00707f, .div, "div rd,rs1,rs2"⟩,
  ⟨0x02005033, 0xfe00707f, .divu, "divu rd,rs1,rs2"⟩,
  ⟨0x02006033, 0xfe00707f, .rem, "rem rd,rs1,rs2"⟩,
  ⟨0x02007033, 0xfe00707f, .remu, "remu rd,rs1,rs2"⟩,
  ⟨0x0200003b, 0xfe00707f, .mulw, "mulw rd,rs1,rs2"⟩,
  ⟨0x0200403b, 0xfe00707f, .divw, "divw rd,rs1,rs2"⟩,
  ⟨0x0200503b, 0xfe00707f, .divuw, "divuw rd,rs1,rs2"⟩,
  ⟨0x0200603b, 0xfe00707f, .remw, "remw rd,rs1,rs2"⟩,
  ⟨0x0200703b, 0xfe00707f, .remuw, "remuw rd,rs1,rs2"⟩,
  ⟨0x1000202f, 0xf9f0707f, .lrW, "lr.w rd,rs1"⟩,
  ⟨0x1800202f, 0xf800707f, .scW, "sc.w rd,rs2,rs1"⟩,
  ⟨0x0800202f, 0xf800707f, .amoswapW, "amoswap.w"⟩,
  ⟨0x0000202f, 0xf800707f, .amoaddW, "amoadd.w"⟩,
  ⟨0x2000202f, 0xf800707f, .amoxorW, "amoxor.w"⟩,
  ⟨0x6000202f, 0xf800707f, .amoandW, "amoand.w"⟩,
  ⟨0x4000202f, 0xf800707f, .amoorW, "amoor.w"⟩,
  ⟨0x8000202f, 0xf800707f, .amominW, "amomin.w"⟩,
  ⟨0xa000202f, 0xf800707f, .amomaxW, "amomax.w"⟩,
  ⟨0xc000202f, 0xf800707f, .amominuW, "amominu.w"⟩,
  ⟨0xe000202f, 0xf800707f, .amomaxuW, "amomaxu.w"⟩,
  ⟨0x1000302f, 0xf9f0707f, .lrD, "lr.d rd,rs1"⟩,
  ⟨0x1800302f, 0xf800707f, .scD, "sc.d rd,rs1,rs2"⟩,
  ⟨0x0800302f, 0xf800707f, .amoswapD, "amoswap.d"⟩,
  ⟨0x0000302f, 0xf800707f, .amoaddD, "amoadd.d"⟩,
  ⟨0x2000302f, 0xf800707f, .amoxorD, "amoxor.d"⟩,
  ⟨0x6000302f, 0xf800707f, .amoandD, "amoand.d"⟩,
  ⟨0x4000302f, 0xf800707f, .amoorD, "amoor.d"⟩,
  ⟨0x8000302f, 0xf800707f, .amominD, "amomin.d"⟩,
  ⟨0xa000302f, 0xf800707f, .amomaxD, "amomax.d"⟩,
  ⟨0xc000302f, 0xf800707f, .amominuD, "amominu.d"⟩,
  ⟨0xe000302f, 0xf800707f, .amomaxuD, "amomaxu.d"⟩,
  ⟨0x00002007, 0x0000707f, .flw, "flw"⟩,
  ⟨0x00002027, 0x0000707f, .fsw, "fsw"⟩,
  ⟨0x00000043, 0x0600007f, .fmaddS, "fmadd.s"⟩,
  ⟨0x00000047, 0x0600007f, .fmsubS, "fmsub.s"⟩,
  ⟨0x0000004b, 0x0600007f, .fnmsubS, "fnmsub.s"⟩,
  ⟨0x0000004f, 0x0600007f, .fnmaddS, "fnmadd.s"⟩,
  ⟨0x00000053, 0xfe00007f, .faddS, "fadd.s"⟩,
  ⟨0x08000053, 0xfe00007f, .fsubS, "fsub.s"⟩,
  ⟨0x10000053, 0xfe00007f, .fmulS, "fmul.s"⟩,
  ⟨0x18000053, 0xfe00007f, .fdivS, "fdiv.s"⟩,
  ⟨0x58000053, 0xfff0007f, .fsqrtS, "fsqrt.s"⟩,
  ⟨0x20000053, 0xfe00707f, .fsgnjS, "fsgnj.s"⟩,
  ⟨0x20001053, 0xfe00707f, .fsgnjnS, "fsgnjn.s"⟩,
  ⟨0x20002053, 0xfe00707f, .fsgnjxS, "fsgnjx.s"⟩,
  ⟨0x28000053, 0xfe00707f, .fminS, "fmin.s"⟩,
  ⟨0x28001053, 0xfe00707f, .fmaxS, "fmax.s"⟩,
  ⟨0xc0000053, 0xfff0007f, .fcvtWS, "fcvt.w.s"⟩,
  ⟨0xc0100053, 0xfff0007f, .fcvtWuS, "fcvt.wu.s"⟩,
  ⟨0xe0000053, 0xfff0707f, .fmvXW, "fmv.x.w"⟩,
  ⟨0xa0002053, 0xfe00707f, .feqS, "feq.s"⟩,
  ⟨0xa0001053, 0xfe00707f, .fltS, "flt.s"⟩,
  ⟨0xa0000053, 0xfe00707f, .fleS, "fle.s"⟩,
  ⟨0xe0001053, 0xfff0707f, .fclassS, "fclass.s"⟩,
  ⟨0xd0000053, 0xfff0007f, .fcvtSW, "fcvt.s.w"⟩,
  ⟨0xd0100053, 0xfff0007f, .fcvtSWu, "fcvt.s.wu"⟩,
  ⟨0xf0000053, 0xfff0707f, .fmvWX, "fmv.w.x"⟩,
  ⟨0xc0200053, 0xfff0007f, .fcvtLS, "fcvt.l.s"⟩,
  ⟨0xc0300053, 0xfff0007f, .fcvtLuS, "fcvt.lu.s"⟩,
  ⟨0xd0200053, 0xfff0007f, .fcvtSL, "fcvt.s.l"⟩,
  ⟨0xd0300053, 0xfff0007f, .fcvtSLu, "fcvt.s.lu"⟩,
  ⟨0x00003007, 0x0000707f, .fld, "fld"⟩,
  ⟨0x00003027, 0x0000707f, .fsd, "fsd"⟩,
  ⟨0x02000043, 0x0600007f, .fmaddD, "fmadd.d"⟩,
  ⟨0x02000047, 0x0600007f, .fmsubD, "fmsub.d"⟩,
  ⟨0x0200004b, 0x0600007f, .fnmsubD, "fnmsub.d"⟩,
  ⟨0x0200004f, 0x0600007f, .fnmaddD, "fnmadd.d"⟩,
  ⟨0x02000053, 0xfe00007f, .faddD, "fadd.d"⟩,
  ⟨0x0a000053, 0xfe00007f, .fsubD, "fsub.d"⟩,
  ⟨0x12000053, 0xfe00007f, .fmulD, "fmul.d"⟩,
  ⟨0x1a000053, 0xfe00007f, .fdivD, "fdiv.d"⟩,
  ⟨0x5a000053, 0xfff0007f, .fsqrtD, "fsqrt.d"⟩,
  ⟨0x22000053, 0xfe00707f, .fsgnjD, "fsgnj.d"⟩,
  ⟨0x22001053, 0xfe00707f, .fsgnjnD, "fsgnjn.d"⟩,
  ⟨0x22002053, 0xfe00707f, .fsgnjxD, "fsgnjx.d"⟩,
  ⟨0x2a000053, 0xfe00707f, .fminD, "fmin.d"⟩,
  ⟨0x2a001053, 0xfe00707f, .fmaxD, "fmax.d"⟩,
  ⟨0x40100053, 0xfff0007f, .fcvtSD, "fcvt.s.d"⟩,
  ⟨0x42000053, 0xfff0007f, .fcvtDS, "fcvt.d.s"⟩,
  ⟨0xa2002053, 0xfe00707f, .feqD, "feq.d"⟩,
  ⟨0xa2001053, 0xfe00707f, .fltD, "flt.d"⟩,
  ⟨0xa2000053, 0xfe00707f, .fleD, "fle.d"⟩,
  ⟨0xe2001053, 0xfff0707f, .fclassD, "fclass.d"⟩,
  ⟨0xc2000053, 0xfff0007f, .fcvtWD, "fcvt.w.d"⟩,
  ⟨0xc2100053, 0xfff0007f, .fcvtWuD, "fcvt.wu.d"⟩,
  ⟨0xd2000053, 0xfff0007f, .fcvtDW, "fcvt.d.w"⟩,
  ⟨0xd2100053, 0xfff0007f, .fcvtDWu, "fcvt.d.wu"⟩,
  ⟨0xc2200053, 0xfff0007f, .fcvtLD, "fcvt.l.d"⟩,
  ⟨0xc2300053, 0xfff0007f, .fcvtLuD, "fcvt.lu.d"⟩,
  ⟨0xe2000053, 0xfff0707f, .fmvXD, "fmv.x.d"⟩,
  ⟨0xd2200053, 0xfff0007f, .fcvtDL, "fcvt.d.l"⟩,
  ⟨0xd2300053, 0xfff0007f, .fcvtDLu, "fcvt.d.lu"⟩,
  ⟨0xf2000053, 0xfff0707f, .fmvDX, "fmv.d.x"⟩,
  ⟨0x00004007, 0x0000707f, .flq, "flq"⟩,
  ⟨0x00004027, 0x0000707f, .fsq, "fsq"⟩,
  ⟨0x06000043, 0x0600007f, .fmaddQ, "fmadd.q"⟩,
  ⟨0x06000047, 0x0600007f, .fmsubQ, "fmsub.q"⟩,
  ⟨0x0600004b, 0x0600007f, .fnmsubQ, "fnmsub.q"⟩,
  ⟨0x0600004f, 0x0600007f, .fnmaddQ, "fnmadd.q"⟩,
  ⟨0x06000053, 0xfe00007f, .faddQ, "fadd.q"⟩,
  ⟨0x0e000053, 0xfe00007f, .fsubQ, "fsub.q"⟩,
  ⟨0x16000053, 0xfe00007f, .fmulQ, "fmul.q"⟩,
  ⟨0x1e000053, 0xfe00007f, .fdivQ, "fdiv.q"⟩,
  ⟨0x5e000053, 0xfff0007f, .fsqrtQ, "fsqrt.q"⟩,
  ⟨0x26000053, 0xfe00707f, .fsgnjQ, "fsgnj.q"⟩,
  ⟨0x26001053, 0xfe00707f, .fsgnjnQ, "fsgnjn.q"⟩,
  ⟨0x26002053, 0xfe00707f, .fsgnjxQ, "fsgnjx.q"⟩,
  ⟨0x2e000053, 0xfe00707f, .fminQ, "fmin.q"⟩,
  ⟨0x2e001053, 0xfe00707f, .fmaxQ, "fmax.q"⟩,
  ⟨0x40300053, 0xfff0007f, .fcvtSQ, "fcvt.s.q"⟩,
  ⟨0x46000053, 0xfff0007f, .fcvtQS, "fcvt.q.s"⟩,
  ⟨0x42300053, 0xfff0007f, .fcvtDQ, "fcvt.d.q"⟩,
  ⟨0x46100053, 0xfff0007f, .fcvtQD, "fcvt.q.d"⟩,
  ⟨0xa6002053, 0xfe00707f, .feqQ, "feq.q"⟩,
  ⟨0xa6001053, 0xfe00707f, .fltQ, "flt.q"⟩,
  ⟨0xa6000053, 0xfe00707f, .fleQ, "fle.q"⟩,
  ⟨0xe6001053, 0xfff0707f, .fclassQ, "fclass.q"⟩,
  ⟨0xc6000053, 0xfff0007f, .fcvtWQ, "fcvt.w.q"⟩,
  ⟨0xc6100053, 0xfff0007f, .fcvtWuQ, "fcvt.wu.q"⟩,
  ⟨0xd6000053, 0xfff0007f, .fcvtQW, "fcvt.q.w"⟩,
  ⟨0xd6100053, 0xfff0007f, .fcvtQWu, "fcvt.q.wu"⟩,
  ⟨0xc6200053, 0xfff0007f, .fcvtLQ, "fcvt.l.q"⟩,
  ⟨0xc6300053, 0xfff0007f, .fcvtLuQ, "fcvt.lu.q"⟩,
  ⟨0xd6200053, 0xfff0007f, .fcvtQL, "fcvt.q.l"⟩,
  ⟨0xd6300053, 0xfff0007f, .fcvtQLu, "fcvt.q.lu"⟩,
  ⟨0x00000000, 0x0000ffff, .illegal, "illegal"⟩,
  ⟨0x00000000, 0x0000e003, .cAddi4spn, "c.addi4spn rd'"⟩,
  ⟨0x00002000, 0x0000e003, .cFld, "c.fld"⟩,
  ⟨0x00002000, 0x0000e003, .cLq, "c.lq"⟩,
  ⟨0x00004000, 0x0000e003, .cLw, "c.lw"⟩,
  ⟨0x00006000, 0x0000e003, .cFlw, "c.flw"⟩,
  ⟨0x00008000, 0x0000e003, .reserved1, "reserved1"⟩,
  ⟨0x0000a000, 0x0000e003, .cFsd, "c.fsd"⟩,
  ⟨0x0000a000, 0x0000e003, .cSq, "c.sq"⟩,
  ⟨0x0000c000, 0x0000e003, .cSw, "c.sw"⟩,
  ⟨0x0000e000, 0x0000e003, .cFsw, "c.fsw"⟩,
  ⟨0x00000001, 0x0000ffff, .cNop, "c.nop"⟩,
  ⟨0x00000001, 0x0000e003, .cAddi, "c.addi rd,imm"⟩,
  ⟨0x00002001, 0x0000e003, .cJal, "c.jal"⟩,
  ⟨0x00002001, 0x0000e003, .cAddiw, "c.addiw"⟩,
  ⟨0x00004001, 0x0000e003, .cLi, "c.li"⟩,
  ⟨0x00006101, 0x0000ef83, .cAddi16sp, "c.addi16sp"⟩,
  ⟨0x00006001, 0x0000e003, .cLui, "c.lui"⟩,
  ⟨0x00008001, 0x0000ec03, .cSrli, "c.srli"⟩,
  ⟨0x00008401, 0x0000ec03, .cSrai, "c.srai"⟩,
  ⟨0x00008801, 0x0000ec03, .cAndi, "c.andi"⟩,
  ⟨0x00008c01, 0x0000fc63, .cSub, "c.sub"⟩,
  ⟨0x00008c21, 0x0000fc63, .cXor, "c.xor"⟩,
  ⟨0x00008c41, 0x0000fc63, .cOr, "c.or"⟩,
  ⟨0x00008c61, 0x0000fc63, .cAnd, "c.and"⟩,
  ⟨0x00009c01, 0x0000fc63, .cSubw, "c.subw"⟩,
  ⟨0x00009c21, 0x0000fc63, .cAddw, "c.addw"⟩,
  ⟨0x00009c41, 0x0000fc63, .reserved2, "reserved2"⟩,
  ⟨0x00009c61, 0x0000fc63, .reserved3, "reserved3"⟩,
  ⟨0x0000a001, 0x0000e003, .cJ, "c.j"⟩,
  ⟨0x0000c001, 0x0000e003, .cBeqz, "c.beqz"⟩,
  ⟨0x0000e001, 0x0000e003, .cBnez, "c.bnez"⟩,
  ⟨0x00000002, 0x0000e003, .cSlli, "c.slli"⟩,
  ⟨0x00000002, 0x0000f07f, .cSlli64, "c.slli64"⟩,
  ⟨0x00002002, 0x0000e003, .cFldsp, "c.fldsp"⟩,
  ⟨0x00002002, 0x0000e003, .cLqsp, "c.lqsp"⟩,
  ⟨0x00004002, 0x0000e003, .cLwsp, "c.lwsp"⟩,
  ⟨0x00006002, 0x0000e003, .cFlwsp, "c.flwsp"⟩,
  ⟨0x00006002, 0x0000e003, .cLdsp, "c.ldsp"⟩,
  ⟨0x00008002, 0x0000f07f, .cJr, "c.jr"⟩,
  ⟨0x00008002, 0x0000f003, .cMv, "c.mv"⟩,
  ⟨0x00009002, 0x0000ffff, .cEbreak, "c.ebreak"⟩,
  ⟨0x00009002, 0x0000f07f, .cJalr, "c.jalr"⟩,
  ⟨0x00009002, 0x0000f003, .cAdd, "c.add"⟩,
  ⟨0x0000a002, 0x0000e003, .cFsdsp, "c.fsdsp"⟩,
  ⟨0x0000a002, 0x0000e003, .cSqsp, "c.sqsp"⟩,
  ⟨0x0000c002, 0x0000e003, .cSwsp, "c.swsp"⟩,
  ⟨0x0000e002, 0x0000e003, .cFswsp, "c.fswsp"⟩,
  ⟨0x0000e002, 0x0000e003, .cSdsp, "c.sdsp"⟩]

def Optable.matches (row : Optable) (code : Word) : Bool :=
  code &&& row.mask == row.code

/-- The scan both decoders make: the first row that matches. -/
def optableLookup (code : Word) : Option Optable :=
  optable.find? (·.matches code)

end RiscVFast
