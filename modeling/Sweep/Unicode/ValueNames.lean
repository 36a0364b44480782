/-!
Names of property values, without blanks, dashes, underscores and case. Each entry is the short
name of a value, an equals sign and every name it has.
-/

namespace Sweep.Unicode

def categoryNames : String :=
  "C=c,other Cc=cc,control,cntrl Cf=cf,format Cn=cn,unassigned Co=co,privateuse L=l,letter
  LC=lc,casedletter Ll=ll,lowercaseletter Lm=lm,modifierletter Lo=lo,otherletter
  Lt=lt,titlecaseletter Lu=lu,uppercaseletter M=m,mark,combiningmark Mc=mc,spacingmark
  Me=me,enclosingmark Mn=mn,nonspacingmark N=n,number Nd=nd,decimalnumber,digit
  Nl=nl,letternumber No=no,othernumber P=p,punctuation,punct Pc=pc,connectorpunctuation
  Pd=pd,dashpunctuation Pe=pe,closepunctuation Pf=pf,finalpunctuation Pi=pi,initialpunctuation
  Po=po,otherpunctuation Ps=ps,openpunctuation S=s,symbol Sc=sc,currencysymbol
  Sk=sk,modifiersymbol Sm=sm,mathsymbol So=so,othersymbol Z=z,separator Zl=zl,lineseparator
  Zp=zp,paragraphseparator Zs=zs,spaceseparator"

def scriptNames : String :=
  "Adlm=adlm,adlam Aghb=aghb,caucasianalbanian Ahom=ahom Arab=arab,arabic
  Armi=armi,imperialaramaic Armn=armn,armenian Avst=avst,avestan Bali=bali,balinese
  Bamu=bamu,bamum Bass=bass,bassavah Batk=batk,batak Beng=beng,bengali Bhks=bhks,bhaiksuki
  Bopo=bopo,bopomofo Brah=brah,brahmi Brai=brai,braille Bugi=bugi,buginese Buhd=buhd,buhid
  Cakm=cakm,chakma Cans=cans,canadianaboriginal Cari=cari,carian Cham=cham Cher=cher,cherokee
  Chrs=chrs,chorasmian Copt=copt,coptic,qaac Cpmn=cpmn,cyprominoan Cprt=cprt,cypriot
  Cyrl=cyrl,cyrillic Deva=deva,devanagari Diak=diak,divesakuru Dogr=dogr,dogra Dsrt=dsrt,deseret
  Dupl=dupl,duployan Egyp=egyp,egyptianhieroglyphs Elba=elba,elbasan Elym=elym,elymaic
  Ethi=ethi,ethiopic Gara=gara,garay Geor=geor,georgian Glag=glag,glagolitic
  Gong=gong,gunjalagondi Gonm=gonm,masaramgondi Goth=goth,gothic Gran=gran,grantha
  Grek=grek,greek Gujr=gujr,gujarati Gukh=gukh,gurungkhema Guru=guru,gurmukhi Hang=hang,hangul
  Hani=hani,han Hano=hano,hanunoo Hatr=hatr,hatran Hebr=hebr,hebrew Hira=hira,hiragana
  Hluw=hluw,anatolianhieroglyphs Hmng=hmng,pahawhhmong Hmnp=hmnp,nyiakengpuachuehmong
  Hung=hung,oldhungarian Ital=ital,olditalic Java=java,javanese Kali=kali,kayahli
  Kana=kana,katakana Kawi=kawi Khar=khar,kharoshthi Khmr=khmr,khmer Khoj=khoj,khojki
  Kits=kits,khitansmallscript Knda=knda,kannada Krai=krai,kiratrai Kthi=kthi,kaithi
  Lana=lana,taitham Laoo=laoo,lao Latn=latn,latin Lepc=lepc,lepcha Limb=limb,limbu
  Lina=lina,lineara Linb=linb,linearb Lisu=lisu Lyci=lyci,lycian Lydi=lydi,lydian
  Mahj=mahj,mahajani Maka=maka,makasar Mand=mand,mandaic Mani=mani,manichaean Marc=marc,marchen
  Medf=medf,medefaidrin Mend=mend,mendekikakui Merc=merc,meroiticcursive
  Mero=mero,meroitichieroglyphs Mlym=mlym,malayalam Modi=modi Mong=mong,mongolian Mroo=mroo,mro
  Mtei=mtei,meeteimayek Mult=mult,multani Mymr=mymr,myanmar Nagm=nagm,nagmundari
  Nand=nand,nandinagari Narb=narb,oldnortharabian Nbat=nbat,nabataean Newa=newa Nkoo=nkoo,nko
  Nshu=nshu,nushu Ogam=ogam,ogham Olck=olck,olchiki Onao=onao,olonal Orkh=orkh,oldturkic
  Orya=orya,oriya Osge=osge,osage Osma=osma,osmanya Ougr=ougr,olduyghur Palm=palm,palmyrene
  Pauc=pauc,paucinhau Perm=perm,oldpermic Phag=phag,phagspa Phli=phli,inscriptionalpahlavi
  Phlp=phlp,psalterpahlavi Phnx=phnx,phoenician Plrd=plrd,miao Prti=prti,inscriptionalparthian
  Rjng=rjng,rejang Rohg=rohg,hanifirohingya Runr=runr,runic Samr=samr,samaritan
  Sarb=sarb,oldsoutharabian Saur=saur,saurashtra Sgnw=sgnw,signwriting Shaw=shaw,shavian
  Shrd=shrd,sharada Sidd=sidd,siddham Sind=sind,khudawadi Sinh=sinh,sinhala Sogd=sogd,sogdian
  Sogo=sogo,oldsogdian Sora=sora,sorasompeng Soyo=soyo,soyombo Sund=sund,sundanese
  Sunu=sunu,sunuwar Sylo=sylo,sylotinagri Syrc=syrc,syriac Tagb=tagb,tagbanwa Takr=takr,takri
  Tale=tale,taile Talu=talu,newtailue Taml=taml,tamil Tang=tang,tangut Tavt=tavt,taiviet
  Telu=telu,telugu Tfng=tfng,tifinagh Tglg=tglg,tagalog Thaa=thaa,thaana Thai=thai
  Tibt=tibt,tibetan Tirh=tirh,tirhuta Tnsa=tnsa,tangsa Todr=todr,todhri Toto=toto
  Tutg=tutg,tulutigalari Ugar=ugar,ugaritic Vaii=vaii,vai Vith=vith,vithkuqi Wara=wara,warangciti
  Wcho=wcho,wancho Xpeo=xpeo,oldpersian Xsux=xsux,cuneiform Yezi=yezi,yezidi Yiii=yiii,yi
  Zanb=zanb,zanabazarsquare Zinh=zinh,inherited,qaai Zyyy=zyyy,common"

def graphemeBreakNames : String :=
  "CN=cn,control CR=cr EB=eb,ebase EBG=ebg,ebasegaz EM=em,emodifier EX=ex,extend
  GAZ=gaz,glueafterzwj L=l LF=lf LV=lv LVT=lvt PP=pp,prepend RI=ri,regionalindicator
  SM=sm,spacingmark T=t V=v ZWJ=zwj"

def wordBreakNames : String :=
  "CR=cr DQ=dq,doublequote EB=eb,ebase EBG=ebg,ebasegaz EM=em,emodifier EX=ex,extendnumlet
  Extend=extend FO=fo,format GAZ=gaz,glueafterzwj HL=hl,hebrewletter KA=ka,katakana LE=le,aletter
  LF=lf MB=mb,midnumlet ML=ml,midletter MN=mn,midnum NL=nl,newline NU=nu,numeric
  RI=ri,regionalindicator SQ=sq,singlequote WSegSpace=wsegspace ZWJ=zwj"

def sentenceBreakNames : String :=
  "AT=at,aterm CL=cl,close CR=cr EX=ex,extend FO=fo,format LE=le,oletter LF=lf LO=lo,lower
  NU=nu,numeric SC=sc,scontinue SE=se,sep SP=sp ST=st,sterm UP=up,upper"

def ageNames : String :=
  "1.1=1.1,v11 10.0=10.0,v100 11.0=11.0,v110 12.0=12.0,v120 12.1=12.1,v121 13.0=13.0,v130
  14.0=14.0,v140 15.0=15.0,v150 15.1=15.1,v151 16.0=16.0,v160 2.0=2.0,v20 2.1=2.1,v21 3.0=3.0,v30
  3.1=3.1,v31 3.2=3.2,v32 4.0=4.0,v40 4.1=4.1,v41 5.0=5.0,v50 5.1=5.1,v51 5.2=5.2,v52 6.0=6.0,v60
  6.1=6.1,v61 6.2=6.2,v62 6.3=6.3,v63 7.0=7.0,v70 8.0=8.0,v80 9.0=9.0,v90"

end Sweep.Unicode
